import BslLint.Proofs.Check.EmptyLines
import BslLint.Proofs.Rule.Instances
import BslLint.Proofs.Session.Wording

/-! The same session in two languages, and the same document under two paths. The language decides the messages and
nothing else. Of a path only the file type counts, as long as the rules themselves do not look at it. -/

set_option autoImplicit false

namespace BslLint

/-- Violations that differ in their messages at most. -/
structure Violation.Alike (left right : Violation) : Prop where
  code : right.code = left.code
  severity : right.severity = left.severity
  kind : right.kind = left.kind
  range : right.range = left.range
  tags : right.tags = left.tags

theorem Violation.alike_of_unworded {left right : Violation} (same : right.unworded = left.unworded) :
    left.Alike right := by
  simp only [unworded, mk.injEq] at same
  obtain ⟨code, severity, kind, range, _, tags⟩ := same
  exact ⟨code, severity, kind, range, tags⟩

theorem forall₂_alike_of_unworded {left right : List Violation}
    (same : right.map Violation.unworded = left.map Violation.unworded) : List.Forall₂ Violation.Alike left right := by
  have pairs : List.Forall₂ (· = ·) (left.map Violation.unworded) (right.map Violation.unworded) :=
    List.forall₂_eq_eq_eq ▸ same.symm
  rw [List.forall₂_map_left_iff, List.forall₂_map_right_iff] at pairs
  exact pairs.imp fun _ _ agree => Violation.alike_of_unworded agree.symm

namespace Report

-- Reports that differ in messages at most.
structure Alike (left right : Report) : Prop where
  filesChecked : right.filesChecked = left.filesChecked
  files : List.Forall₂ (fun file other => other.path = file.path ∧
    List.Forall₂ Violation.Alike file.violations other.violations) left.files right.files
  count : right.count = left.count
  countBySeverity : right.countBySeverity = left.countBySeverity
  hasBlocking : right.hasBlocking = left.hasBlocking

theorem count_unworded (report : Report) : report.unworded.count = report.count := by
  rw [count, entries_unworded, List.length_map]
  rfl

theorem countBySeverity_unworded (report : Report) : report.unworded.countBySeverity = report.countBySeverity := by
  unfold countBySeverity
  rw [entries_unworded]
  simp only [List.countP_map]
  rfl

theorem alike_of_unworded {left right : Report} (same : right.unworded = left.unworded) : left.Alike right where
  filesChecked := congrArg (fun report => report.filesChecked) same
  files := by
    have files := List.forall₂_eq_eq_eq ▸ congrArg Report.files same.symm
    unfold unworded at files
    rw [List.forall₂_map_left_iff, List.forall₂_map_right_iff] at files
    refine files.imp fun file other agree => ?_
    rw [FileReport.mk.injEq] at agree
    exact ⟨agree.1.symm, forall₂_alike_of_unworded agree.2.symm⟩
  count := by rw [← count_unworded, same, count_unworded]
  countBySeverity := by rw [← countBySeverity_unworded, same, countBySeverity_unworded]
  hasBlocking := by rw [← hasBlocking_unworded, same, hasBlocking_unworded]

end Report

namespace Registry

variable {State : Type} [Rule State] (registry : Registry State) (snapshot : Snapshot) (language : Language)

theorem single_withLanguage (code : String) : registry.single code (snapshot.withLanguage language) =
    (registry.single code snapshot).map fun rule => { rule with language } := by
  unfold single
  cases registry.lookup? code with
  | none => rfl
  | some descriptor => exact registry.instantiate_withLanguage snapshot language descriptor

theorem unworded_runRule (code : String) (path : Path) (fileType : FileType) (content : String) :
    (registry.runRule (snapshot.withLanguage language) code path fileType content).map (List.map Violation.unworded) =
      (registry.runRule snapshot code path fileType content).map (List.map Violation.unworded) := by
  rw [runRule, runRule, single_withLanguage]
  cases registry.single code snapshot with
  | error error => rfl
  | ok rule =>
    simp only [Except.map, unworded_inOrder, unworded_run]

omit [Rule State]

theorem find?_of_mem_codes {code : String} (known : code ∈ registry.codes) :
    ∃ rule, registry.find? code = some rule ∧ rule.descriptor.code = code := by
  obtain ⟨_, listed, same⟩ := List.mem_map.mp known
  obtain ⟨rule, registered, rfl⟩ := List.mem_map.mp listed
  cases found : registry.find? code with
  | none => exact absurd (beq_iff_eq.mpr same) (List.find?_eq_none.mp found rule registered)
  | some first =>
    have matching := List.find?_some found
    exact ⟨first, rfl, beq_iff_eq.mp matching⟩

theorem find?_of_not_mem_codes {code : String} (unknown : code ∉ registry.codes) : registry.find? code = none := by
  refine List.find?_eq_none.mpr fun rule registered same => unknown ?_
  rw [← beq_iff_eq.mp same]
  exact List.mem_map_of_mem (List.mem_map_of_mem registered)

variable [Rule State] {code : String} (path : Path) (fileType : FileType) (content : String)

theorem runRule_of_mem (known : code ∈ registry.codes) :
    ∃ violations, registry.runRule snapshot code path fileType content = .ok violations := by
  obtain ⟨rule, found, rfl⟩ := registry.find?_of_mem_codes known
  simp only [runRule, single, lookup?, found, Option.map_some, instantiate]
  exact ⟨_, rfl⟩

theorem runRule_of_not_mem (unknown : code ∉ registry.codes) :
    registry.runRule snapshot code path fileType content = .error ⟨code⟩ := by
  simp only [runRule, single, lookup?, registry.find?_of_not_mem_codes unknown, Option.map_none]
  rfl

end Registry

namespace Session

variable {State : Type} {left right : Session State} {tree another : FileTree} {language : Language}

/-- The same session speaks another language under a snapshot that differs only in that. -/
theorem speaksLike_withStore (session : Session State) (tree : FileTree) {store : Store}
    (same : store.current.snapshot = session.snapshot.withLanguage language) :
    SpeaksLike tree tree session { session with store } language where
  registry := rfl
  snapshot := same
  contexts fileType := by
    have root : store.current.snapshot.configurationRoot = session.snapshot.configurationRoot := by
      rw [same]
      rfl
    exact congrArg (fun detection => Context.mk fileType (Detection.mode detection))
      (Detection.renew_congr tree session.root session.detection root)

variable [Rule State] {path other : Path} {fileType : FileType}

theorem call_runRule_eq (session : Session State) (supported : FileType.ofPath? path = some fileType)
    (code content : String) : (session.call (runRule code path content)).1 =
      (session.registry.runRule session.snapshot code path fileType content).mapError .unknownRule := by
  have got : session.call get = (.ok session, session) := rfl
  simp only [runRule, supported]
  rw [call_bind_ok got]
  cases session.registry.runRule session.snapshot code path fileType content <;> rfl

/-- What two sessions find in a text, each under a path of its own, they put in words of their own. -/
structure FindsAlike (left right : Session State) (tree : FileTree) (path other : Path) (content : String) : Prop where
  analyze : ∃ found translated, (left.call (Session.analyze tree path content)).1 = .ok found ∧
    (right.call (Session.analyze tree other content)).1 = .ok translated ∧ List.Forall₂ Violation.Alike found translated
  runRule : ∀ code ∈ left.registry.codes, ∃ found translated,
    (left.call (Session.runRule code path content)).1 = .ok found ∧
      (right.call (Session.runRule code other content)).1 = .ok translated ∧
      List.Forall₂ Violation.Alike found translated
  unknown : ∀ code ∉ left.registry.codes,
    (left.call (Session.runRule code path content)).1 = .error (.unknownRule ⟨code⟩) ∧
      (right.call (Session.runRule code other content)).1 = .error (.unknownRule ⟨code⟩)

theorem SpeaksLike.findsAlike_of_eq (speaks : SpeaksLike tree tree left right language)
    (supported : FileType.ofPath? path = some fileType) (renamed : FileType.ofPath? other = some fileType)
    {content : String}
    (analyzed : ∀ snapshot context only, left.registry.analyze snapshot context only other content =
      left.registry.analyze snapshot context only path content)
    (ran : ∀ snapshot code, left.registry.runRule snapshot code other fileType content =
      left.registry.runRule snapshot code path fileType content) :
    left.FindsAlike right tree path other content where
  analyze := by
    unfold Session.analyze
    rw [call_analyzeOnly_supported _ _ _ _ _ supported, call_analyzeOnly_supported _ _ _ _ _ renamed]
    refine ⟨_, _, rfl, rfl, forall₂_alike_of_unworded ?_⟩
    rw [speaks.registry, speaks.snapshot, speaks.contexts, analyzed, Registry.unworded_analyze]
  runRule code known := by
    obtain ⟨found, first⟩ := left.registry.runRule_of_mem left.snapshot path fileType content known
    obtain ⟨translated, second⟩ := left.registry.runRule_of_mem right.snapshot path fileType content known
    have same := left.registry.unworded_runRule left.snapshot language code path fileType content
    rw [← speaks.snapshot, first, second] at same
    rw [call_runRule_eq _ supported, call_runRule_eq _ renamed, speaks.registry, ran, first, second]
    exact ⟨found, translated, rfl, rfl, forall₂_alike_of_unworded (Except.ok.inj same)⟩
  unknown code unknown := by
    rw [call_runRule_eq _ supported, call_runRule_eq _ renamed, speaks.registry,
      left.registry.runRule_of_not_mem _ _ _ _ unknown, left.registry.runRule_of_not_mem _ _ _ _ unknown]
    exact ⟨rfl, rfl⟩

theorem ignoresPath_of_builtin (registry : Registry BuiltinRule) : registry.IgnoresPath := by
  intro rule _ parameters document path
  have lines : ({ document with path } : Document).Extends document := ⟨0, by simp [Document.lines]⟩
  exact BuiltinRule.check_of_extends lines _

/-- A run over the same files goes on in both languages, or ends at the same file. -/
theorem SpeaksLike.unworded_reportFiles (speaks : SpeaksLike tree tree left right language)
    (only : Option (List String)) (paths : List Path) {report reportRight : Report}
    (reported : reportRight.unworded = report.unworded) :
    (right.call (reportFiles tree only reportRight paths)).1.map Report.unworded =
      (left.call (reportFiles tree only report paths)).1.map Report.unworded := by
  induction paths generalizing left right report reportRight with
  | nil => exact congrArg Except.ok reported
  | cons path paths ih =>
    rw [call_reportFiles_cons, call_reportFiles_cons]
    cases tree.readText path with
    | error error => rfl
    | ok content =>
      cases FileType.ofPath? path with
      | none => rfl
      | some fileType =>
        refine ih speaks.renewed ?_
        rw [Report.unworded_push, Report.unworded_push, reported, speaks.registry, speaks.snapshot, speaks.contexts,
          Registry.unworded_analyze]

theorem SpeaksLike.unworded_analyzeTree (speaks : SpeaksLike tree tree left right language) (path : Path)
    (options : TreeOptions) : (right.call (analyzeTree tree path options)).1.map Report.unworded =
      (left.call (analyzeTree tree path options)).1.map Report.unworded := by
  unfold analyzeTree
  cases Discovery.files tree path options.exclude with
  | error error => rfl
  | ok paths => exact speaks.unworded_reportFiles options.rules paths rfl

end Session

end BslLint
