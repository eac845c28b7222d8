import BslLint.Check.Registry
import BslLint.Proofs.Session.Opening
import BslLint.Proofs.Sharing.Run

/-! Walks over directories in a shared session. -/

set_option autoImplicit false

namespace BslLint.Sharing

variable {State : Type} [Rule State]

-- With nobody in between, a walk is the session's own call.
theorem walk_endsAlone (world : World State) (path : Path) (options : TreeOptions) :
    ∃ next, Step world (.asked (.walk path options)) next ∧
      EndsAlone world.calls.length next (.walk path options)
        (world.session.call (Session.analyzeTree world.tree path options)) := by
  rw [Thread.call_analyzeTree]
  exact asked_endsAlone world (.walk path options)

/-- A walk analyzes each file as a session would that has been opened under one of the snapshots that were in
force, the first or a published one, and never under an older one than the file before. It ends within its
turns, and nobody can keep it from the next one. -/
theorem walk_one_edition_each {tree : FileTree} {root : Path} {given : Option Path} {registry : Registry State}
    {session : Session State} (opened : Session.openAt tree root given registry = .ok session)
    {events : List Event} {world : World State} (run : Run (.opened tree session) events world)
    {id : Nat} {path : Path} {options : TreeOptions} {turns : Nat} {taken : List Edition}
    {rest : Thread (Except SessionError Report)}
    (there : world.calls[id]? = some ⟨.walk path options, turns, taken, rest⟩) :
    (∀ answer, rest = .done answer → Thread.WalksTree tree session path options taken answer) ∧
      (⟨0, session.snapshot⟩ :: published events).Pairwise (fun earlier later => earlier.number < later.number) ∧
      (∀ edition ∈ taken, edition ∈ ⟨0, session.snapshot⟩ :: published events) ∧
      taken.Pairwise (fun earlier later => earlier.number ≤ later.number) ∧
      turns ≤ Thread.walkTurns tree path options ∧
      ((∃ answer, rest = .done answer) ∨
        turns < Thread.walkTurns tree path options ∧ ∃ next, Step world (.turned id) next) := by
  have under := Session.openAt_under opened
  have sound := run.sound (sound_opened under)
  obtain ⟨settled, calls⟩ := run.ordered (ordered_opened under)
  obtain ⟨issued, ascending, _⟩ := calls _ (List.mem_of_getElem? there)
  refine ⟨?_, settled.ascending, issued, ascending, sound.progress there⟩
  rintro answer rfl
  exact sound.fits there

namespace Overtaken

def file : Path := ⟨"/m.bsl"⟩

def tree : FileTree :=
  FileTree.empty.putFile ["m.bsl"] "// todo".toUTF8

def session : Session BuiltinRule :=
  .opened tree ⟨"/"⟩ none Builtin.registry .standard

theorem openAt_eq : Session.openAt tree ⟨"/"⟩ none Builtin.registry = .ok session :=
  Session.openAt_eq_ok_iff.mpr ⟨.standard, .missing (by decide +kernel), rfl⟩

def options : TreeOptions := ⟨[], none⟩

def english : Snapshot := .withLanguage .standard .en

theorem files_eq : Discovery.files tree file [] = .ok [file] :=
  if_pos (by decide +kernel)

theorem analyzes (snapshot : Snapshot) :
    ∃ violations, ((session.under tree snapshot).call (Session.analyzeFile tree file)).1 = .ok violations := by
  have read : tree.readText file = .ok "// todo" := by decide +kernel
  have supported : FileType.ofPath? file = some .bsl := by decide +kernel
  exact ⟨_, Session.call_analyzeFile_under tree session snapshot read supported⟩

end Overtaken

theorem walk_one_edition_each_overtaken : ∃ events world turns edition violations,
    Run (.opened Overtaken.tree Overtaken.session)
      (.asked (.walk Overtaken.file Overtaken.options) :: .broadcast (.swapped ⟨1, Overtaken.english⟩) :: events)
      world ∧
    edition ∈ [⟨0, .standard⟩, ⟨1, Overtaken.english⟩] ∧
    ((Overtaken.session.under Overtaken.tree edition.snapshot).call
      (Session.analyzeFile Overtaken.tree Overtaken.file)).1 = .ok violations ∧
    world.calls[0]? = some ⟨.walk Overtaken.file Overtaken.options, turns, [edition],
      .done (.ok (Report.empty.push Overtaken.file violations))⟩ := by
  obtain ⟨middle, turns, taken, rest, first, asked⟩ : ∃ middle turns taken rest,
      Run (.opened Overtaken.tree Overtaken.session)
        [.asked (.walk Overtaken.file Overtaken.options), .broadcast (.swapped ⟨1, Overtaken.english⟩)] middle ∧
      middle.calls[0]? = some ⟨.walk Overtaken.file Overtaken.options, turns, taken, rest⟩ :=
    ⟨_, _, _, _, .next (.ask _) (.next (.broadcast (.swap Overtaken.english)) .done), rfl⟩
  obtain ⟨events, world, turns, taken, others, alone, _, ended⟩ := endsAlone asked
  obtain ⟨answer, there⟩ : ∃ answer, world.calls[0]? =
      some ⟨.walk Overtaken.file Overtaken.options, turns, taken, .done answer⟩ := ⟨_, ended⟩
  have run := first.append others
  obtain ⟨answers, _, issued, _⟩ := walk_one_edition_each Overtaken.openAt_eq run there
  have walks : Thread.Walked Overtaken.tree Overtaken.session none .empty [Overtaken.file] taken answer := by
    have tree := answers answer rfl
    unfold Thread.WalksTree at tree
    rw [show Discovery.files Overtaken.tree Overtaken.file Overtaken.options.exclude = .ok [Overtaken.file] from
      Overtaken.files_eq] at tree
    exact tree
  have silent : broadcastEvents events = [] := by
    refine List.filterMap_eq_nil_iff.mpr fun event mem => ?_
    rw [alone event mem]
    rfl
  cases walks with
  | @file _ _ _ edition _ violations _ analyzed rest =>
    cases rest
    have all : violations.filter (fun violation => Registry.admits none violation.code) = violations :=
      List.filter_eq_self.mpr fun _ _ => rfl
    rw [all] at there
    have known : edition ∈ ⟨0, .standard⟩ ::
        Broadcast.published (.swapped ⟨1, Overtaken.english⟩ :: broadcastEvents events) :=
      issued edition List.mem_cons_self
    rw [silent] at known
    exact ⟨events, world, turns, edition, violations, run, known, analyzed, there⟩
  | failed _ fails =>
    obtain ⟨violations, analyzed⟩ := Overtaken.analyzes .standard
    cases (fails .standard).symm.trans analyzed

end BslLint.Sharing
