import BslLint.Proofs.Session.Tree

/-! Reports in another language. The language of a snapshot makes a difference to the messages of violations, and to
nothing else in a report. -/

set_option autoImplicit false

namespace BslLint

def Violation.unworded (violation : Violation) : Violation :=
  { violation with message := "" }

namespace Registry

variable {State : Type} [Rule State] (registry : Registry State) (snapshot : Snapshot) (language : Language)
  (context : Context)

theorem instantiate_withLanguage (descriptor : Descriptor) :
    registry.instantiate descriptor (snapshot.withLanguage language) =
      (registry.instantiate descriptor snapshot).map fun rule => { rule with language } := by
  unfold instantiate
  cases registry.find? descriptor.code <;> rfl

theorem instances_withLanguage : registry.instances context (snapshot.withLanguage language) =
    (registry.instances context snapshot).map fun rule => { rule with language } := by
  have selected : registry.selected context (snapshot.withLanguage language) =
      registry.selected context snapshot := rfl
  unfold instances
  rw [selected, List.map_filterMap]
  refine List.filterMap_congr fun descriptor _ => ?_
  rw [instantiate_withLanguage]
  cases registry.instantiate descriptor snapshot <;> rfl

theorem unworded_run (rule : RuleInstance State) (document : Document) :
    (({ rule with language }).run document).map Violation.unworded = (rule.run document).map Violation.unworded := by
  rw [RuleInstance.run, RuleInstance.run, List.map_map, List.map_map]
  rfl

theorem unworded_inOrder (violations : List Violation) : (Violation.inOrder violations).map Violation.unworded =
    Violation.inOrder (violations.map Violation.unworded) :=
  List.map_mergeSort fun _ _ _ _ => rfl

theorem unworded_analyze (only : Option (List String)) (path : Path) (content : String) :
    (registry.analyze (snapshot.withLanguage language) context only path content).map Violation.unworded =
      (registry.analyze snapshot context only path content).map Violation.unworded := by
  have included : (includes only ∘ fun rule : RuleInstance State => { rule with language }) = includes only := by
    funext rule
    cases only <;> rfl
  unfold analyze
  simp only [unworded_inOrder, instances_withLanguage, List.filter_map, included, List.map_flatMap, List.flatMap_map,
    unworded_run]

end Registry

namespace Report

def unworded (report : Report) : Report where
  files := report.files.map fun file => { file with violations := file.violations.map Violation.unworded }
  filesChecked := report.filesChecked

theorem unworded_push (report : Report) (path : Path) (violations : List Violation) :
    (report.push path violations).unworded = report.unworded.push path (violations.map Violation.unworded) := by
  have sorted : (violations.mergeSort violationLe).map Violation.unworded =
      (violations.map Violation.unworded).mergeSort violationLe := List.map_mergeSort fun _ _ _ _ => rfl
  unfold push unworded
  rw [List.isEmpty_map]
  split
  · rfl
  · rw [List.map_append, ← sorted]
    rfl

theorem entries_unworded (report : Report) :
    report.unworded.entries = report.entries.map fun entry => (entry.1, entry.2.unworded) := by
  unfold entries unworded
  rw [List.flatMap_map, List.map_flatMap]
  simp only [List.map_map]
  rfl

-- Whether a report blocks, its messages do not say.
theorem hasBlocking_unworded (report : Report) : report.unworded.hasBlocking = report.hasBlocking := by
  rw [hasBlocking, entries_unworded, List.any_map]
  rfl

end Report

namespace Session

variable {State : Type} {left right : Session State} {tree other : FileTree} {language : Language}

/-- A session that differs from another one in the language of its snapshot. -/
structure SpeaksLike (tree other : FileTree) (left right : Session State) (language : Language) : Prop where
  registry : right.registry = left.registry
  snapshot : right.snapshot = left.snapshot.withLanguage language
  contexts : ∀ fileType, right.contextOf other fileType = left.contextOf tree fileType

theorem SpeaksLike.renewed (speaks : SpeaksLike tree other left right language) :
    SpeaksLike tree other (left.renewed tree) (right.renewed other) language where
  registry := speaks.registry
  snapshot := speaks.snapshot
  contexts fileType := by
    rw [contextOf_renewed, contextOf_renewed, speaks.contexts]

variable [Rule State]

/-- Sessions in two languages that read the same sources report the same but for the messages, or both fail. -/
theorem SpeaksLike.call_reportFiles (speaks : SpeaksLike tree other left right language)
    (only : Option (List String)) {paths : List Path}
    (reads : ∀ path ∈ paths, FileType.ofPath? path ≠ none → other.readText path = tree.readText path)
    {report reportRight : Report} (reported : reportRight.unworded = report.unworded) :
    (right.call (reportFiles other only reportRight paths)).1.toOption.map Report.unworded =
      (left.call (reportFiles tree only report paths)).1.toOption.map Report.unworded := by
  induction paths generalizing left right report reportRight with
  | nil => exact congrArg some reported
  | cons path paths ih =>
    rw [call_reportFiles_cons, call_reportFiles_cons]
    cases supported : FileType.ofPath? path with
    | none =>
      -- A run ends at a file of an unknown type, whether that can be read or not.
      cases tree.readText path <;> cases other.readText path <;> rfl
    | some fileType =>
      rw [reads path List.mem_cons_self (by simp [supported])]
      cases tree.readText path with
      | error error => rfl
      | ok content =>
        refine ih speaks.renewed (fun path mem => reads path (List.mem_cons_of_mem _ mem)) ?_
        rw [Report.unworded_push, Report.unworded_push, reported, speaks.registry, speaks.snapshot, speaks.contexts,
          Registry.unworded_analyze]

/-- The same files to analyze lead to the same report but for the messages, or both runs fail. -/
theorem SpeaksLike.call_analyzeTree (speaks : SpeaksLike tree other left right language) {path : Path}
    {options : TreeOptions} (listed : Discovery.files other path options.exclude =
      Discovery.files tree path options.exclude)
    (reads : ∀ paths, Discovery.files tree path options.exclude = .ok paths → ∀ file ∈ paths,
      FileType.ofPath? file ≠ none → other.readText file = tree.readText file) :
    (right.call (analyzeTree other path options)).1.toOption.map Report.unworded =
      (left.call (analyzeTree tree path options)).1.toOption.map Report.unworded := by
  unfold analyzeTree
  rw [listed]
  cases found : Discovery.files tree path options.exclude with
  | error error => rfl
  | ok paths => exact speaks.call_reportFiles options.rules (reads paths found) rfl

end Session

end BslLint
