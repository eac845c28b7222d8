import BslLint.Proofs.Rule.Contribution
import BslLint.Proofs.Rule.Instances
import BslLint.Proofs.Session.Tree
import BslLint.Proofs.Workspace.Exclusion

/-! A session that analyzes less of a directory. Leaving out rules is the same as leaving out their violations from
the report of all rules: each step of the run commutes with it, and so does the whole run. Leaving out files by
further patterns leaves some of the violations. -/

set_option autoImplicit false

namespace BslLint

namespace Report

/-- The violations of a report with some codes. Files that are left without any are dropped; all of them stay
checked. -/
def keeping (keep : String → Bool) (report : Report) : Report where
  files := (report.files.map fun file =>
    { file with violations := file.violations.filter fun violation => keep violation.code }).filter
      fun file => !file.violations.isEmpty
  filesChecked := report.filesChecked

variable (keep : String → Bool)

/-- It makes no difference whether violations are left out before or after they are recorded. -/
theorem keeping_push (report : Report) (path : Path) (violations : List Violation) :
    (report.push path violations).keeping keep =
      (report.keeping keep).push path (violations.filter fun violation => keep violation.code) := by
  have sorted := filter_mergeSort violationLe_trans violationLe_total
    (fun violation => keep violation.code) violations
  unfold push keeping
  cases violations with
  | nil => rfl
  | cons first rest =>
    simp only [List.isEmpty_cons, Bool.false_eq_true, if_false, List.map_append, List.map_cons, List.map_nil,
      List.filter_append, sorted]
    cases (first :: rest).filter fun violation => keep violation.code with
    | nil => simp
    | cons kept others =>
      have some : ((kept :: others).mergeSort violationLe).isEmpty = false := by
        rw [List.isEmpty_eq_false_iff, ← List.length_pos_iff, List.length_mergeSort]
        exact Nat.succ_pos _
      simp [some]

theorem entries_keeping (report : Report) :
    (report.keeping keep).entries = report.entries.filter fun entry => keep entry.2.code := by
  unfold entries keeping
  induction report.files with
  | nil => rfl
  | cons file rest ih =>
    have own : (file.violations.map fun violation => (file.path, violation)).filter
          (fun entry => keep entry.2.code) =
        (file.violations.filter fun violation => keep violation.code).map fun violation =>
          (file.path, violation) := by
      rw [List.filter_map]
      rfl
    rw [List.flatMap_cons, List.filter_append, own, ← ih, List.map_cons, List.filter_cons]
    -- A file that is dropped has no entries.
    split
    · rw [List.flatMap_cons]
    · rename_i dropped
      have none : (file.violations.filter fun violation => keep violation.code) = [] := by simpa using dropped
      rw [none, List.map_nil, List.nil_append]

end Report

namespace Registry

variable {State : Type} [Rule State] {registry : Registry State} {snapshot : Snapshot} {context : Context}

-- Whatever is reported, a rule reports that the snapshot selects.
theorem code_of_mem_analyze {only : Option (List String)} {path : Path} {content : String}
    {violation : Violation}
    (mem : violation ∈ registry.analyze snapshot context only path content) :
    ∃ descriptor ∈ registry.descriptors, descriptor.code = violation.code ∧
      descriptor.metadata.Runs context snapshot := by
  obtain ⟨rule, included, reported⟩ := List.mem_flatMap.mp (List.mem_mergeSort.mp mem)
  rw [instances_eq_filterMap] at included
  obtain ⟨descriptor, known, found⟩ := List.mem_filterMap.mp (List.mem_of_mem_filter included)
  have own := registry.descriptor_of_instance? found
  refine ⟨descriptor, known, ?_, ?_⟩
  · rw [RuleInstance.code_of_mem_run reported, own]
  · rw [Descriptor.runs_iff_isSelected]
    unfold instance? at found
    split at found
    · assumption
    · cases found

end Registry

namespace Session

variable {State : Type} [Rule State] {session : Session State} {tree : FileTree} {path : Path}

variable (session tree) (only : Option (List String))

/-- File after file, violations are left out where the run for all rules has them. -/
theorem call_reportFiles_keeping (paths : List Path) (report : Report) :
    session.call (reportFiles tree only (report.keeping (Registry.admits only)) paths) =
      ((session.call (reportFiles tree none report paths)).1.map (Report.keeping (Registry.admits only)),
        (session.call (reportFiles tree none report paths)).2) := by
  induction paths generalizing session report with
  | nil => rfl
  | cons path paths ih =>
    rw [call_reportFiles_cons, call_reportFiles_cons]
    cases tree.readText path with
    | error error => rfl
    | ok content =>
      cases FileType.ofPath? path with
      | none => rfl
      | some fileType =>
        dsimp only
        rw [Registry.analyze_only, ← Report.keeping_push, ih]

theorem call_analyzeTree_keeping (path : Path) (exclude : List String) :
    session.call (analyzeTree tree path ⟨exclude, only⟩) =
      ((session.call (analyzeTree tree path ⟨exclude, none⟩)).1.map (Report.keeping (Registry.admits only)),
        (session.call (analyzeTree tree path ⟨exclude, none⟩)).2) := by
  unfold analyzeTree
  cases Discovery.files tree path exclude with
  | error error => rfl
  | ok files => exact session.call_reportFiles_keeping tree only files .empty

end Session

/-- What stands beside an item is related to it, and nothing else is if the relation is a function. -/
theorem mem_zip_iff_of_forall₂ {Item Other : Type} {related : Item → Other → Prop}
    (determined : ∀ item left right, related item left → related item right → left = right)
    {items : List Item} {others : List Other} (all : List.Forall₂ related items others) (item : Item)
    (other : Other) : (item, other) ∈ items.zip others ↔ item ∈ items ∧ related item other := by
  induction all with
  | nil => simp
  | @cons first firstOther rest restOthers own _ ih =>
    rw [List.zip_cons_cons, List.mem_cons, ih, List.mem_cons, Prod.mk.injEq]
    constructor
    · rintro (⟨rfl, rfl⟩ | ⟨later, known⟩)
      · exact ⟨.inl rfl, own⟩
      · exact ⟨.inr later, known⟩
    · rintro ⟨rfl | later, known⟩
      · exact .inl ⟨rfl, determined _ _ _ known own⟩
      · exact .inr ⟨later, known⟩

namespace Session

variable {State : Type} [Rule State] {session : Session State} {tree : FileTree} {path : Path}

/-- What is answered on a file comes from its content, by the rules that its context selects. -/
theorem eq_analyze_of_call_analyzeFile {violations : List Violation}
    (answered : (session.call (analyzeFile tree path)).1 = .ok violations) :
    ∃ content fileType, tree.readText path = .ok content ∧ FileType.ofPath? path = some fileType ∧
      violations = session.registry.analyze session.snapshot (session.contextOf tree fileType) none path content := by
  cases read : tree.readText path with
  | error error =>
    rw [call_analyzeFile_unreadable tree session read] at answered
    cases answered
  | ok content =>
    rw [call_analyzeFile tree session read] at answered
    cases supported : FileType.ofPath? path with
    | none =>
      rw [call_analyzeOnly_unsupported tree session none path content supported] at answered
      cases answered
    | some fileType =>
      rw [call_analyzeOnly_supported tree session none path content supported] at answered
      exact ⟨content, fileType, rfl, rfl, (Except.ok.inj answered).symm⟩

theorem exists_files_of_call_analyzeTree {options : TreeOptions} {report : Report}
    (reported : (session.call (analyzeTree tree path options)).1 = .ok report) :
    ∃ files, Discovery.files tree path options.exclude = .ok files := by
  cases listed : Discovery.files tree path options.exclude with
  | error error =>
    simp only [analyzeTree, listed] at reported
    cases reported
  | ok files => exact ⟨files, rfl⟩

section

variable {exclude : List String} {files : List Path} {report : Report}
  (listed : Discovery.files tree path exclude = .ok files)
  (reported : (session.call (analyzeTree tree path ⟨exclude, none⟩)).1 = .ok report)
include listed reported

/-- A report holds what is answered on the listed files, and nothing else. -/
theorem mem_entries_iff (file : Path) (violation : Violation) :
    (file, violation) ∈ report.entries ↔ file ∈ files ∧
      ∃ violations, (session.call (analyzeFile tree file)).1 = .ok violations ∧ violation ∈ violations := by
  obtain ⟨answers, answered, rfl⟩ := answers_of_call_analyzeTree listed reported
  have determined (file : Path) (left right : List Violation)
      (first : (session.call (analyzeFile tree file)).1 = .ok left)
      (second : (session.call (analyzeFile tree file)).1 = .ok right) : left = right :=
    Except.ok.inj (first.symm.trans second)
  rw [Report.mem_entries_pushAll_iff]
  simp only [mem_zip_iff_of_forall₂ determined answered, and_assoc, exists_and_left]

end

/-- Every violation in a report is of a rule that the session's snapshot selects for some file. -/
theorem runs_of_mem_entries {exclude : List String} {report : Report}
    (reported : (session.call (analyzeTree tree path ⟨exclude, none⟩)).1 = .ok report) {entry : Path × Violation}
    (mem : entry ∈ report.entries) : ∃ descriptor ∈ session.registry.descriptors,
      descriptor.code = entry.2.code ∧ ∃ context, descriptor.metadata.Runs context session.snapshot := by
  obtain ⟨files, listed⟩ := exists_files_of_call_analyzeTree reported
  obtain ⟨file, violation⟩ := entry
  obtain ⟨_, violations, answered, inside⟩ := (mem_entries_iff listed reported file violation).mp mem
  obtain ⟨content, fileType, _, _, rfl⟩ := eq_analyze_of_call_analyzeFile answered
  obtain ⟨descriptor, known, own, runs⟩ := Registry.code_of_mem_analyze inside
  exact ⟨descriptor, known, own, _, runs⟩

/-- With further patterns, if they are valid, some of the same violations are reported. -/
theorem call_analyzeTree_of_more {exclude more : List String} {report : Report}
    (reported : (session.call (analyzeTree tree path ⟨exclude, none⟩)).1 = .ok report)
    (covers : ∀ text ∈ exclude, text ∈ more)
    (valid : ∀ text ∈ more, text ∈ exclude ∨ ExcludePattern.ofText? text ≠ none) :
    ∃ narrower, (session.call (analyzeTree tree path ⟨more, none⟩)).1 = .ok narrower ∧
      ∀ entry ∈ narrower.entries, entry ∈ report.entries := by
  obtain ⟨files, listed⟩ := exists_files_of_call_analyzeTree reported
  obtain ⟨fewer, listedMore, among⟩ := Discovery.files_of_more listed covers valid
  rcases answers_or_error session tree fewer with ⟨answers, answered⟩ | ⟨file, mem, failed⟩
  · have narrowed := (congrArg Prod.fst (call_analyzeTree_of_files listedMore)).trans
      (call_reportFiles_of_answers answered .empty)
    refine ⟨_, narrowed, fun (file, violation) mem => ?_⟩
    rw [mem_entries_iff listedMore narrowed] at mem
    exact (mem_entries_iff listed reported file violation).mpr ⟨among file mem.1, mem.2⟩
  · -- The run over all files would have failed on this one, too.
    obtain ⟨error, whole⟩ := call_reportFiles_of_error ⟨file, among file mem, failed⟩ .empty
    rw [call_analyzeTree_of_files listed, whole] at reported
    cases reported

/-- A run for fewer rules and with further patterns reports some of the same violations. -/
theorem call_analyzeTree_of_narrower {exclude more : List String} {only fewer : Option (List String)}
    {report : Report} (reported : (session.call (analyzeTree tree path ⟨exclude, only⟩)).1 = .ok report)
    (covers : ∀ text ∈ exclude, text ∈ more)
    (valid : ∀ text ∈ more, text ∈ exclude ∨ ExcludePattern.ofText? text ≠ none)
    (admitted : ∀ code, Registry.admits fewer code = true → Registry.admits only code = true) :
    ∃ narrower, (session.call (analyzeTree tree path ⟨more, fewer⟩)).1 = .ok narrower ∧
      ∀ entry ∈ narrower.entries, entry ∈ report.entries := by
  rw [call_analyzeTree_keeping] at reported ⊢
  obtain ⟨unrestricted, whole, rfl⟩ := Except.of_map_ok reported
  obtain ⟨narrower, narrowed, among⟩ := call_analyzeTree_of_more whole covers valid
  rw [narrowed]
  refine ⟨_, rfl, fun entry mem => ?_⟩
  rw [Report.entries_keeping, List.mem_filter] at mem ⊢
  exact ⟨among entry mem.1, admitted _ mem.2⟩

/-- What a run of a session for some rules has to do with its run for all of them. -/
structure RestrictsTo (session : Session State) (tree : FileTree) (path : Path) (exclude codes : List String) :
    Prop where
  projected : (session.call (analyzeTree tree path ⟨exclude, some codes⟩)).1 =
    (session.call (analyzeTree tree path ⟨exclude, none⟩)).1.map (Report.keeping codes.contains)
  turnedOn : ∀ report, (session.call (analyzeTree tree path ⟨exclude, some codes⟩)).1 = .ok report →
    ∀ entry ∈ report.entries, entry.2.code ∈ codes ∧ ∃ descriptor ∈ session.registry.descriptors,
      descriptor.code = entry.2.code ∧ ∃ context, descriptor.metadata.Runs context session.snapshot

theorem restrictsTo (session : Session State) (tree : FileTree) (path : Path) (exclude codes : List String) :
    session.RestrictsTo tree path exclude codes where
  projected := congrArg Prod.fst (session.call_analyzeTree_keeping tree (some codes) path exclude)
  turnedOn report reported entry mem := by
    rw [call_analyzeTree_keeping] at reported
    obtain ⟨unrestricted, whole, rfl⟩ := Except.of_map_ok reported
    rw [Report.entries_keeping, List.mem_filter] at mem
    exact ⟨List.contains_iff_mem.mp mem.2, runs_of_mem_entries whole mem.1⟩

end Session

end BslLint
