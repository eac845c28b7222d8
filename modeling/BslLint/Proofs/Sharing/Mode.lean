import BslLint.Check.Registry
import BslLint.Proofs.Session.Opening
import BslLint.Proofs.Sharing.Run

/-! The compatibility modes that the callers of a shared session get. -/

set_option autoImplicit false

namespace BslLint.Sharing

variable {State : Type} [Rule State]

/-- With nobody in between, asking for a mode is the session's own call. -/
theorem mode_endsAlone (world : World State) (snapshot : Snapshot) :
    ∃ mode after next, world.session.call (Session.modeFor world.tree snapshot) = (.ok mode, after) ∧
      Step world (.asked (.mode snapshot)) next ∧
      EndsAlone world.calls.length next (.mode snapshot) (mode, after) := by
  obtain ⟨next, asked, ends⟩ := asked_endsAlone world (.mode snapshot)
  exact ⟨_, _, next, Thread.call_modeFor world.tree world.session snapshot, asked, ends⟩

/-- Every caller gets the mode below the configuration root of the snapshot that it holds, as if there were no
stored detection, whatever detections others store in the meantime. It gets it within three turns, and nobody
can keep it from the next one. -/
theorem stored_mode_exact {tree : FileTree} {root : Path} {given : Option Path} {registry : Registry State}
    {session : Session State} (opened : Session.openAt tree root given registry = .ok session)
    {events : List Event} {world : World State} (run : Run (.opened tree session) events world)
    {id : Nat} {snapshot : Snapshot} {turns : Nat} {taken : List Edition}
    {rest : Thread (Option CompatibilityMode)}
    (there : world.calls[id]? = some ⟨.mode snapshot, turns, taken, rest⟩) :
    (∀ mode, rest = .done mode → mode = Metadata.mode? tree root snapshot.configurationRoot) ∧
      turns ≤ 3 ∧ ((∃ mode, rest = .done mode) ∨ turns < 3 ∧ ∃ next, Step world (.turned id) next) := by
  have sound := run.sound (sound_opened (Session.openAt_under opened))
  have same : session.root = root := by
    obtain ⟨_, _, rfl⟩ := Session.openAt_eq_ok_iff.mp opened
    rfl
  refine ⟨?_, sound.progress there⟩
  rintro mode rfl
  have fits := (sound.fits there).2
  rwa [same] at fits

-- Two callers with different configuration roots, of which one comes between the turns of the other.

namespace Crossing

def tree : FileTree :=
  FileTree.empty.putFile ["old", "Configuration.xml"] "<m><compatibilityMode>8.3.10</compatibilityMode></m>".toUTF8

def older : Snapshot :=
  { Snapshot.standard with configurationRoot := some ⟨"old"⟩ }

def mode : CompatibilityMode := ⟨8, 3, 10⟩

theorem mode?_older : Metadata.mode? tree ⟨"/"⟩ older.configurationRoot = some mode := by decide +kernel

def session : Session BuiltinRule :=
  .opened tree ⟨"/"⟩ none Builtin.registry .standard

theorem openAt_eq : Session.openAt tree ⟨"/"⟩ none Builtin.registry = .ok session :=
  Session.openAt_eq_ok_iff.mpr ⟨.standard, .missing (by decide +kernel), rfl⟩

end Crossing

theorem stored_mode_exact_crossing : ∃ events world turns taken,
    Run (.opened Crossing.tree Crossing.session)
      (.asked (.mode Crossing.older) :: .turned 0 :: .asked (.mode .standard) :: .turned 1 :: events) world ∧
    world.calls[0]? = some ⟨.mode Crossing.older, turns, taken, .done (some Crossing.mode)⟩ := by
  obtain ⟨middle, turns, taken, rest, first, asked⟩ : ∃ middle turns taken rest,
      Run (.opened Crossing.tree Crossing.session)
        [.asked (.mode Crossing.older), .turned 0, .asked (.mode .standard), .turned 1] middle ∧
      middle.calls[0]? = some ⟨.mode Crossing.older, turns, taken, rest⟩ :=
    ⟨_, _, _, _, .next (.ask _) (.next (.turn rfl rfl) (.next (.ask _) (.next (.turn rfl rfl) .done))), rfl⟩
  obtain ⟨events, world, turns, taken, others, _, _, there⟩ := endsAlone asked
  have run := first.append others
  have mode := (stored_mode_exact Crossing.openAt_eq run there).1 _ rfl
  rw [Crossing.mode?_older] at mode
  rw [mode] at there
  exact ⟨events, world, turns, taken, run, there⟩

end BslLint.Sharing
