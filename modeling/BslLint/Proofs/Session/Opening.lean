import BslLint.Proofs.Configuration.Reading
import BslLint.Proofs.Session.Analysis

/-! The snapshot that a session opens with. -/

set_option autoImplicit false

namespace BslLint.Session

variable {State : Type} {tree : FileTree} {root : Path} {given : Option Path} {registry : Registry State}
  {session : Session State} {snapshot : Snapshot}

/-- A session that has just been opened with a snapshot. -/
def opened (tree : FileTree) (root : Path) (given : Option Path) (registry : Registry State)
    (snapshot : Snapshot) : Session State where
  root := root
  configurationPath := configurationPathFor root given
  registry := registry
  store := .opened snapshot
  detection := .run tree root snapshot
  watcher := none

theorem openAt_eq_ok_iff : openAt tree root given registry = .ok session ↔
    ∃ snapshot, Snapshot.Loads tree (configurationPathFor root given) snapshot ∧
      session = opened tree root given registry snapshot := by
  simp only [Snapshot.loads_iff]
  unfold openAt
  constructor
  · intro result
    cases loaded : Snapshot.load tree (configurationPathFor root given) with
    | error error =>
      simp only [loaded] at result
      cases result
    | ok snapshot =>
      simp only [loaded] at result
      cases result
      exact ⟨snapshot, rfl, rfl⟩
  · rintro ⟨snapshot, loaded, rfl⟩
    simp only [loaded]
    rfl

theorem openAt_of_loads (loads : Snapshot.Loads tree (configurationPathFor root given) snapshot)
    (registry : Registry State) :
    ∃ session, openAt tree root given registry = .ok session ∧ session.snapshot = snapshot :=
  ⟨_, openAt_eq_ok_iff.mpr ⟨snapshot, loads, rfl⟩, rfl⟩

theorem openAt_iff (registry : Registry State) :
    (∃ session, openAt tree root given registry = .ok session ∧ session.snapshot = snapshot) ↔
      Snapshot.Loads tree (configurationPathFor root given) snapshot := by
  constructor
  · rintro ⟨session, result, rfl⟩
    obtain ⟨snapshot, loads, rfl⟩ := openAt_eq_ok_iff.mp result
    exact loads
  · intro loads
    exact openAt_of_loads loads registry

theorem openAt_under (result : openAt tree root given registry = .ok session) :
    session.under tree session.snapshot = session := by
  obtain ⟨snapshot, _, rfl⟩ := openAt_eq_ok_iff.mp result
  rfl

end BslLint.Session
