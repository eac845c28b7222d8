import BslLint.Proofs.Command.Checking
import BslLint.Proofs.Session.Wording
import BslLint.Proofs.Workspace.Editing

/-! The exit code of the command that checks. It tells a failure from a report that blocks and from one that does not.
The format of the output and the language of the messages make no difference to it, and a run that covers less never
has a worse one. -/

set_option autoImplicit false

namespace BslLint

def Violation.Blocks (violation : Violation) : Prop :=
  violation.kind = .error ∨ violation.severity = .critical ∨ violation.severity = .blocker

theorem Violation.isBlocking_iff (violation : Violation) : violation.isBlocking = true ↔ violation.Blocks := by
  have severe (severity : Severity) : Severity.critical ≤ severity ↔ severity = .critical ∨ severity = .blocker := by
    cases severity <;> decide
  rw [isBlocking, Bool.or_eq_true, beq_iff_eq, decide_eq_true_iff, severe, Blocks]

theorem Report.hasBlocking_iff (report : Report) :
    report.hasBlocking = true ↔ ∃ entry ∈ report.entries, entry.2.Blocks := by
  simp only [hasBlocking, List.any_eq_true, Violation.isBlocking_iff]

/-- A report with fewer violations does not block if the whole does not. -/
theorem Report.hasBlocking_of_entries {report narrower : Report}
    (among : ∀ entry ∈ narrower.entries, entry ∈ report.entries) (passes : report.hasBlocking = false) :
    narrower.hasBlocking = false := by
  rw [← Bool.not_eq_true, hasBlocking_iff] at passes ⊢
  rintro ⟨entry, mem, blocks⟩
  exact passes ⟨entry, among entry mem, blocks⟩

namespace Command

def Progress.exitCode? : Progress → Option UInt8
  | .ended outcome => some outcome.exitCode
  | .goesOn _ _ => none

-- When a check ends with an exit code.
inductive Checks (tree : FileTree) (environment : Environment) (demand : Option Path) (arguments : TreeArguments) :
    UInt8 → Prop where
  | unopened {error : SessionError} : openSession tree environment demand arguments.path = .error error →
      Checks tree environment demand arguments 2
  | failed {session : Session BuiltinRule} {error : SessionError} :
      openSession tree environment demand arguments.path = .ok session →
      (analyzed tree session arguments).1 = .error error → Checks tree environment demand arguments 2
  | blocked {session : Session BuiltinRule} {report : Report} :
      openSession tree environment demand arguments.path = .ok session →
      (analyzed tree session arguments).1 = .ok report → (∃ entry ∈ report.entries, entry.2.Blocks) →
      Checks tree environment demand arguments 1
  | passed {session : Session BuiltinRule} {report : Report} :
      openSession tree environment demand arguments.path = .ok session →
      (analyzed tree session arguments).1 = .ok report → (∀ entry ∈ report.entries, ¬ entry.2.Blocks) →
      Checks tree environment demand arguments 0

def exitCodeOf : Option Report → UInt8
  | none => 2
  | some report => if report.hasBlocking then 1 else 0

theorem exitCodeOf_unworded (report : Option Report) :
    exitCodeOf (report.map Report.unworded) = exitCodeOf report := by
  cases report with
  | none => rfl
  | some report => simp only [Option.map_some, exitCodeOf, Report.hasBlocking_unworded]

theorem exitCodeOf_eq_zero_iff {report : Option Report} :
    exitCodeOf report = 0 ↔ ∃ passed, report = some passed ∧ passed.hasBlocking = false := by
  cases report with
  | none => simp [exitCodeOf]
  | some report =>
    simp only [exitCodeOf, Option.some.injEq, exists_eq_left']
    cases report.hasBlocking <;> simp

theorem exitCodeOf_blocked {report : Report} (blocks : ∃ entry ∈ report.entries, entry.2.Blocks) :
    exitCodeOf (some report) = 1 :=
  if_pos (report.hasBlocking_iff.mpr blocks)

theorem exitCodeOf_passed {report : Report} (passes : ∀ entry ∈ report.entries, ¬ entry.2.Blocks) :
    exitCodeOf (some report) = 0 := by
  refine if_neg fun blocking => ?_
  obtain ⟨entry, mem, blocks⟩ := report.hasBlocking_iff.mp blocking
  exact passes entry mem blocks

theorem exitCode?_of_asks {environment : Environment} {line : List String} {demand : Option Path}
    {arguments : TreeArguments} (asks : Asks environment line demand arguments) (tree : FileTree) :
    (run tree environment line).exitCode? =
      some (exitCodeOf (checked tree environment demand arguments).toOption) := by
  rw [run_of_asks asks]
  cases checked tree environment demand arguments <;> rfl

theorem checks_iff (tree : FileTree) (environment : Environment) (demand : Option Path) (arguments : TreeArguments)
    (code : UInt8) : Checks tree environment demand arguments code ↔
      code = exitCodeOf (checked tree environment demand arguments).toOption := by
  constructor
  · intro checks
    cases checks with
    | unopened unopened =>
      rw [checked_of_unopened unopened]
      rfl
    | failed opened failed =>
      rw [checked_of_opened opened, failed]
      rfl
    | blocked opened reported blocks =>
      rw [checked_of_opened opened, reported]
      exact (exitCodeOf_blocked blocks).symm
    | passed opened reported passes =>
      rw [checked_of_opened opened, reported]
      exact (exitCodeOf_passed passes).symm
  · rintro rfl
    cases opened : openSession tree environment demand arguments.path with
    | error error =>
      rw [checked_of_unopened opened]
      exact .unopened opened
    | ok session =>
      rw [checked_of_opened opened]
      cases reported : (analyzed tree session arguments).1 with
      | error error => exact .failed opened reported
      | ok report =>
        rw [Except.toOption]
        by_cases blocks : ∃ entry ∈ report.entries, entry.2.Blocks
        · rw [exitCodeOf_blocked blocks]
          exact .blocked opened reported blocks
        · have passes : ∀ entry ∈ report.entries, ¬ entry.2.Blocks :=
            fun entry mem entryBlocks => blocks ⟨entry, mem, entryBlocks⟩
          rw [exitCodeOf_passed passes]
          exact .passed opened reported passes

/-- A session is opened with the rules of the program, at the root of the workspace. -/
theorem opened_of_openSession {tree : FileTree} {environment : Environment} {demand : Option Path} {path : Path}
    {session : Session BuiltinRule} (opened : openSession tree environment demand path = .ok session) :
    session.registry = Builtin.registry ∧ ∀ fileType, session.contextOf tree fileType =
      ⟨fileType, Metadata.mode? tree (workspaceRoot tree path) session.snapshot.configurationRoot⟩ := by
  simp only [openSession] at opened
  have under := Session.openAt_under opened
  obtain ⟨snapshot, _, rfl⟩ := Session.openAt_eq_ok_iff.mp opened
  refine ⟨rfl, fun fileType => ?_⟩
  rw [← under, Session.contextOf_under]
  rfl

theorem workspaceRoot_congr {tree other : FileTree} {path : Path} (same : other.isFile path = tree.isFile path) :
    workspaceRoot other path = workspaceRoot tree path := by
  rw [workspaceRoot, workspaceRoot, same]

section

variable {tree other : FileTree} {environment otherEnvironment : Environment} {demand otherDemand : Option Path}
  {arguments : TreeArguments} {left right : Session BuiltinRule} {language : Language}
  (openedLeft : openSession tree environment demand arguments.path = .ok left)
  (openedRight : openSession other otherEnvironment otherDemand arguments.path = .ok right)
  (translated : right.snapshot = left.snapshot.withLanguage language)
  (sources : FileTree.SameSources arguments.path arguments.exclude (workspaceRoot tree arguments.path) tree other)
include openedLeft openedRight translated sources

theorem speaksLike_of_openSession : Session.SpeaksLike tree other left right language := by
  obtain ⟨registryLeft, contextsLeft⟩ := opened_of_openSession openedLeft
  obtain ⟨registryRight, contextsRight⟩ := opened_of_openSession openedRight
  refine ⟨registryRight.trans registryLeft.symm, translated, fun fileType => ?_⟩
  rw [contextsLeft, contextsRight, workspaceRoot_congr sources.isFile, sources.mode, translated]
  rfl

theorem exitCodeOf_translated : exitCodeOf (checked other otherEnvironment otherDemand arguments).toOption =
    exitCodeOf (checked tree environment demand arguments).toOption := by
  have speaks := speaksLike_of_openSession openedLeft openedRight translated sources
  have same : (checked other otherEnvironment otherDemand arguments).toOption.map Report.unworded =
      (checked tree environment demand arguments).toOption.map Report.unworded := by
    rw [checked_of_opened openedLeft, checked_of_opened openedRight]
    simp only [analyzed, speaks.registry]
    exact speaks.call_analyzeTree sources.files sources.texts
  rw [← exitCodeOf_unworded, same, exitCodeOf_unworded]

end

/-- Arguments that ask for less: a list of rules where there was none, or more exclude patterns, of which the new ones
are valid. -/
structure Narrows (arguments narrower : TreeArguments) : Prop where
  path : narrower.path = arguments.path
  rules : narrower.rules = arguments.rules ∨ arguments.rules = none
  covers : ∀ text ∈ arguments.exclude, text ∈ narrower.exclude
  valid : ∀ text ∈ narrower.exclude, text ∈ arguments.exclude ∨ ExcludePattern.ofText? text ≠ none

theorem Narrows.analyzed {arguments narrower : TreeArguments} (narrows : Narrows arguments narrower) {tree : FileTree}
    {session : Session BuiltinRule} {report : Report} (reported : (analyzed tree session arguments).1 = .ok report) :
    ∃ less, (Command.analyzed tree session narrower).1 = .ok less ∧
      ∀ entry ∈ less.entries, entry ∈ report.entries := by
  unfold Command.analyzed at reported ⊢
  rw [narrows.path]
  refine Session.call_analyzeTree_of_narrower reported narrows.covers narrows.valid fun code admitted => ?_
  rcases narrows.rules with same | all
  · rwa [same] at admitted
  · rw [all]
    rfl

-- A run that passes still does if less is asked for.
theorem Narrows.exitCodeOf_eq_zero {arguments narrower : TreeArguments} (narrows : Narrows arguments narrower)
    {tree : FileTree} {environment : Environment} {demand : Option Path}
    (passes : exitCodeOf (checked tree environment demand arguments).toOption = 0) :
    exitCodeOf (checked tree environment demand narrower).toOption = 0 := by
  obtain ⟨report, made, unblocked⟩ := exitCodeOf_eq_zero_iff.mp passes
  cases opened : openSession tree environment demand arguments.path with
  | error error =>
    rw [checked_of_unopened opened] at made
    cases made
  | ok session =>
    rw [checked_of_opened opened] at made
    have openedNarrower : openSession tree environment demand narrower.path = .ok session := by
      rw [narrows.path, opened]
    cases reported : (Command.analyzed tree session arguments).1 with
    | error error =>
      rw [reported] at made
      cases made
    | ok whole =>
      rw [reported] at made
      cases made
      obtain ⟨less, narrowed, among⟩ := narrows.analyzed reported
      rw [checked_of_opened openedNarrower, narrowed]
      exact exitCodeOf_eq_zero_iff.mpr ⟨less, rfl, Report.hasBlocking_of_entries among unblocked⟩

end Command

open Command in
/-- A check always ends with one of three exit codes. The format of the output does not change it, nor does the
language of the configuration, as long as the sources are the same. A check that passes still does with a list of
rules or with further patterns. -/
theorem check_exitCode {environment : Environment} {line : List String} {demand : Option Path}
    {arguments : TreeArguments} (asks : Asks environment line demand arguments) (tree : FileTree) :
    ∃ code, (run tree environment line).exitCode? = some code ∧
      (∀ other, Checks tree environment demand arguments other ↔ other = code) ∧
      (∀ format otherLine, Asks environment otherLine demand { arguments with format } →
        (run tree environment otherLine).exitCode? = some code) ∧
      (∀ other otherEnvironment otherDemand otherLine left right language,
        openSession tree environment demand arguments.path = .ok left →
        openSession other otherEnvironment otherDemand arguments.path = .ok right →
        right.snapshot = left.snapshot.withLanguage language →
        FileTree.SameSources arguments.path arguments.exclude (workspaceRoot tree arguments.path) tree other →
        Asks otherEnvironment otherLine otherDemand arguments →
        (run other otherEnvironment otherLine).exitCode? = some code) ∧
      (code = 0 → ∀ narrower otherLine, Narrows arguments narrower → Asks environment otherLine demand narrower →
        (run tree environment otherLine).exitCode? = some 0) := by
  refine ⟨_, exitCode?_of_asks asks tree, fun other => checks_iff tree environment demand arguments other, ?_, ?_, ?_⟩
  · intro format otherLine otherAsks
    exact exitCode?_of_asks otherAsks tree
  · intro other otherEnvironment otherDemand otherLine left right language openedLeft openedRight translated sources
      otherAsks
    rw [exitCode?_of_asks otherAsks, exitCodeOf_translated openedLeft openedRight translated sources]
  · intro passes narrower otherLine narrows otherAsks
    rw [exitCode?_of_asks otherAsks, narrows.exitCodeOf_eq_zero passes]

namespace Translated

open Command

def environment : Environment := ⟨none, none, none⟩

def sources : FileTree :=
  FileTree.empty.putFile ["w", "m.bsl"] "x = 42;".toUTF8

def place : Place := ["w", Snapshot.fileName]

def tree (language : Language) : FileTree :=
  sources.putFile place ("[\"" ++ Named.name language ++ "\"]").toUTF8

def arguments : TreeArguments := ⟨⟨"/w"⟩, .text, none, []⟩

theorem opens (language : Language) : ∃ session, openSession (tree language) environment none arguments.path =
    .ok session ∧ session.snapshot = .withLanguage .standard language := by
  have loads : Snapshot.Loads (tree language)
      (Session.configurationPathFor (workspaceRoot (tree language) arguments.path)
        (some (Lookup.find (tree language) environment (workspaceRoot (tree language) arguments.path) none).path))
      (.withLanguage .standard language) := by
    rw [Snapshot.loads_iff]
    cases language <;> decide +kernel
  exact Session.openAt_of_loads loads Builtin.registry

theorem sameSources (left right : Language) (exclude : List String) (root : Path) :
    FileTree.SameSources arguments.path exclude root (tree left) (tree right) := by
  have free : ¬ FileTree.Guides place := by decide
  have edits : (tree left).Edits (fun edited _ _ => edited = place) (tree right) :=
    sources.edits_putFile rfl free
  refine edits.sameSources ?_ arguments.path exclude root
  rintro _ _ _ rfl path named
  rw [FileType.ofPath?, Path.hasExtension, Path.hasExtension, Path.extension?, named]
  decide

end Translated

open Command Translated in
/-- A check that passes, in another format, in another language, and with a rule and a pattern. -/
theorem check_exitCode_translated :
    Asks environment ["check", "/w"] none arguments ∧
      (run (tree .ru) environment ["check", "/w"]).exitCode? = some 0 ∧
      (run (tree .ru) environment ["check", "/w", "-f", "json"]).exitCode? = some 0 ∧
      (run (tree .en) environment ["check", "/w"]).exitCode? = some 0 ∧
      (run (tree .ru) environment ["check", "/w", "--rules", "MagicNumber", "-e", "n.*"]).exitCode? = some 0 := by
  have asks : Asks environment ["check", "/w"] none arguments := ⟨false, by decide +kernel⟩
  have passes : (run (tree .ru) environment ["check", "/w"]).exitCode? = some 0 := by decide +kernel
  obtain ⟨code, exits, _, format, language, narrower⟩ := check_exitCode asks (tree .ru)
  obtain rfl : code = 0 := Option.some.inj (exits.symm.trans passes)
  obtain ⟨left, openedLeft, snapshotLeft⟩ := opens .ru
  obtain ⟨right, openedRight, snapshotRight⟩ := opens .en
  have translated : right.snapshot = left.snapshot.withLanguage .en := by
    rw [snapshotLeft, snapshotRight]
    rfl
  refine ⟨asks, passes, format .json _ ⟨false, by decide +kernel⟩, ?_, ?_⟩
  · exact language (tree .en) environment none _ left right .en openedLeft openedRight translated
      (sameSources .ru .en _ _) asks
  · refine narrower rfl ⟨⟨"/w"⟩, .text, some "MagicNumber", ["n.*"]⟩ _ ⟨rfl, .inr rfl, nofun, ?_⟩
      ⟨false, by decide +kernel⟩
    intro text mem
    obtain rfl := List.mem_singleton.mp mem
    exact .inr (by decide +kernel)

end BslLint
