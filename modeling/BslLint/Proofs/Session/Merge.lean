import BslLint.Proofs.Rule.Contribution
import BslLint.Proofs.Rule.Instances
import BslLint.Proofs.Session.Analysis

/-! A session that analyzes a file reports what the selected rules report one by one, merged in the order of the
ranges, and on the same range in the order of registration. -/

set_option autoImplicit false

namespace BslLint

variable {State : Type} [Rule State]

namespace Registry

variable {registry : Registry State}

/-- Looked up by its code, a rule is configured as it is when it is selected. -/
theorem single_of_mem (distinct : registry.codes.Nodup) {rule : RegisteredRule State} (mem : rule ∈ registry.rules)
    (snapshot : Snapshot) : registry.single rule.descriptor.code snapshot = .ok (configure snapshot rule) := by
  have found := find?_of_mem distinct mem
  simp only [single, lookup?, found, Option.map_some, instantiate, configure]

-- The registered rules that run in a context.
def running (registry : Registry State) (context : Context) (snapshot : Snapshot) : List (RegisteredRule State) :=
  registry.rules.filter fun rule => rule.descriptor.isSelected context snapshot

omit [Rule State] in
theorem selected_eq_map_running (context : Context) (snapshot : Snapshot) :
    registry.selected context snapshot = (registry.running context snapshot).map RegisteredRule.descriptor := by
  rw [selected, descriptors, List.filter_map]
  rfl

def reports (registry : Registry State) (context : Context) (snapshot : Snapshot) (document : Document) :
    List (List Violation) :=
  (registry.running context snapshot).map fun rule => (configure snapshot rule).run document

theorem analyze_eq_inOrder (distinct : registry.codes.Nodup) (snapshot : Snapshot) (context : Context)
    (path : Path) (content : String) : registry.analyze snapshot context none path content =
      Violation.inOrder (registry.reports context snapshot (.ofText path context.fileType content)).flatten := by
  have all : (registry.instances context snapshot).filter (includes none) = registry.instances context snapshot :=
    List.filter_eq_self.mpr fun _ _ => rfl
  simp only [analyze, all]
  rw [instances_eq_map distinct, List.flatMap_map, reports, running, List.flatMap_def]

omit [Rule State] in
theorem filter_code_of_nodup {rules : List (RegisteredRule State)}
    (distinct : (rules.map fun rule => rule.descriptor.code).Nodup) {rule : RegisteredRule State} (mem : rule ∈ rules) :
    rules.filter (fun other => other.descriptor.code == rule.descriptor.code) = [rule] := by
  induction rules with
  | nil => cases mem
  | cons first rest ih =>
    obtain ⟨apart, distinct⟩ := List.nodup_cons.mp distinct
    rcases List.mem_cons.mp mem with rfl | later
    · rw [List.filter_cons_of_pos (by simp), List.filter_eq_nil_iff.mpr]
      intro other present
      simpa using fun same => apart (List.mem_map.mpr ⟨other, present, same⟩)
    · have other : first.descriptor.code ≠ rule.descriptor.code :=
        fun same => apart (List.mem_map.mpr ⟨rule, later, same.symm⟩)
      rw [List.filter_cons_of_neg (by simpa using other)]
      exact ih distinct later

omit [Rule State] in
theorem codes_eq_map_rules : registry.codes = registry.rules.map fun rule => rule.descriptor.code := by
  rw [codes, descriptors, List.map_map]
  rfl

omit [Rule State] in
theorem nodup_codes_running (distinct : registry.codes.Nodup) (context : Context) (snapshot : Snapshot) :
    ((registry.running context snapshot).map fun rule => rule.descriptor.code).Nodup := by
  rw [codes_eq_map_rules] at distinct
  exact distinct.sublist (List.filter_sublist.map _)

variable (context : Context) (snapshot : Snapshot) (document : Document)

theorem reports_flatten : (registry.reports context snapshot document).flatten =
    ((registry.running context snapshot).map (configure snapshot)).flatMap fun rule => rule.run document := by
  rw [reports, List.flatMap_map, List.flatMap_def]

/-- What carries the code of a running rule is what the rule reports. -/
theorem filter_code_reports (distinct : registry.codes.Nodup) {rule : RegisteredRule State}
    (mem : rule ∈ registry.running context snapshot) :
    (registry.reports context snapshot document).flatten.filter
        (fun violation => violation.code == rule.descriptor.code) =
      (configure snapshot rule).run document := by
  rw [reports_flatten, filter_flatMap_run (· == rule.descriptor.code), List.filter_map]
  have only := filter_code_of_nodup (nodup_codes_running distinct context snapshot) mem
  have same : (fun other : RuleInstance State => other.descriptor.code == rule.descriptor.code) ∘ configure snapshot =
      fun other => other.descriptor.code == rule.descriptor.code := rfl
  rw [same, only]
  simp

theorem code_of_mem_reports {violation : Violation}
    (mem : violation ∈ (registry.reports context snapshot document).flatten) :
    ∃ descriptor ∈ registry.selected context snapshot, violation.code = descriptor.code := by
  rw [reports_flatten] at mem
  obtain ⟨rule, present, reported⟩ := List.mem_flatMap.mp mem
  obtain ⟨registered, running, rfl⟩ := List.mem_map.mp present
  refine ⟨registered.descriptor, ?_, RuleInstance.code_of_mem_run reported⟩
  rw [selected_eq_map_running]
  exact List.mem_map_of_mem running

omit [Rule State] in
theorem running_pairwise (distinct : registry.codes.Nodup) :
    (registry.running context snapshot).Pairwise fun left right =>
      registry.codes.idxOf left.descriptor.code ≤ registry.codes.idxOf right.descriptor.code := by
  have ordered : registry.codes.Pairwise fun left right => registry.codes.idxOf left ≤ registry.codes.idxOf right := by
    refine List.pairwise_iff_getElem.mpr fun first second inside insideToo lt => ?_
    rw [distinct.idxOf_getElem _ inside, distinct.idxOf_getElem _ insideToo]
    exact Nat.le_of_lt lt
  have places : (registry.rules.map fun rule => rule.descriptor.code).Pairwise fun left right =>
      registry.codes.idxOf left ≤ registry.codes.idxOf right := by
    rwa [← codes_eq_map_rules]
  exact (List.pairwise_map.mp places).sublist List.filter_sublist

/-- Before they are sorted, violations stand in the order of registration. -/
theorem reports_pairwise (distinct : registry.codes.Nodup) :
    (registry.reports context snapshot document).flatten.Pairwise fun left right =>
      registry.codes.idxOf left.code ≤ registry.codes.idxOf right.code := by
  rw [reports_flatten, List.flatMap_map, List.pairwise_flatMap]
  constructor
  -- What one rule reports has the same code throughout; the rules themselves stand in order.
  · intro rule _
    refine List.pairwise_of_forall_mem_list fun left memLeft right memRight => ?_
    have same := (RuleInstance.code_of_mem_run memLeft).trans (RuleInstance.code_of_mem_run memRight).symm
    exact Nat.le_of_eq (congrArg registry.codes.idxOf same)
  · refine (running_pairwise context snapshot distinct).imp fun le left memLeft right memRight => ?_
    rw [RuleInstance.code_of_mem_run memLeft, RuleInstance.code_of_mem_run memRight]
    exact le

end Registry

theorem Violation.tied_of_range_eq {left right : Violation} (same : left.range = right.range) :
    tied rangeLe left right = true := by
  rw [tied, rangeLe, rangeLe, same, Source.Range.le_refl, Bool.and_self]

namespace Session

variable (session : Session State) (tree : FileTree) {path : Path} {fileType : FileType}
  (supported : FileType.ofPath? path = some fileType)

include supported

omit [Rule State] in
theorem call_context_supported :
    (session.call (context tree path)).1 = .ok (some (session.contextOf tree fileType)) := by
  simp only [context, contextWith, supported]
  rfl

theorem call_runRule_ok {code content : String} {run : List Violation}
    (ran : session.registry.runRule session.snapshot code path fileType content = .ok run) :
    (session.call (runRule code path content)).1 = .ok run := by
  have got : session.call get = (.ok session, session) := rfl
  simp only [runRule, supported]
  rw [call_bind_ok got]
  simp only [ran]
  rfl

end Session

/-- What the analysis of a file has to do with the runs of single rules: `runs` holds what each of the selected rules
reports when it is run alone. -/
structure Session.Merges (session : Session State) (tree : FileTree) (path : Path) (content : String)
    (context : Context) (reported : List Violation) (runs : List (List Violation)) : Prop where
  known : (session.call (Session.context tree path)).1 = .ok (some context)
  answered : (session.call (analyze tree path content)).1 = .ok reported
  each : List.Forall₂ (fun descriptor run =>
      (session.call (runRule descriptor.code path content)).1 = .ok run ∧
      reported.filter (fun violation => violation.code == descriptor.code) = run)
    (session.registry.selected context session.snapshot) runs
  merged : reported = Violation.inOrder runs.flatten
  selected : ∀ violation ∈ reported,
    ∃ descriptor ∈ session.registry.selected context session.snapshot, violation.code = descriptor.code
  ties : reported.Pairwise fun left right => left.range = right.range →
    session.registry.codes.idxOf left.code ≤ session.registry.codes.idxOf right.code

/-- A session with a registry that has been built reports on a file what each of the selected rules reports when
it is run alone, merged in the order of the ranges. -/
theorem Session.analyze_merges {catalog : Catalog} {rules : List (RuleMetadata × State)} {session : Session State}
    (built : Registry.build catalog rules = .ok session.registry) (tree : FileTree) {path : Path}
    {fileType : FileType} (supported : FileType.ofPath? path = some fileType) (content : String) :
    ∃ context reported runs, session.Merges tree path content context reported runs := by
  have distinct := Registry.nodup_codes_of_build built
  let context := session.contextOf tree fileType
  let reports := session.registry.reports context session.snapshot (.ofText path fileType content)
  refine ⟨context, Violation.inOrder reports.flatten, reports.map Violation.inOrder, ?_, ?_, ?_, ?_, ?_, ?_⟩
  · exact session.call_context_supported tree supported
  · rw [analyze, call_analyzeOnly_supported _ _ _ _ _ supported, Registry.analyze_eq_inOrder distinct]
    rfl
  · rw [Registry.selected_eq_map_running, List.forall₂_map_left_iff, List.forall₂_map_right_iff]
    refine List.forall₂_map_right_iff.mpr (List.forall₂_same.mpr fun rule running => ?_)
    have own := Registry.filter_code_reports context session.snapshot (.ofText path fileType content) distinct running
    refine ⟨session.call_runRule_ok supported ?_, ?_⟩
    · rw [Registry.runRule, Registry.single_of_mem distinct (List.mem_of_mem_filter running)]
      rfl
    · rw [Violation.filter_inOrder, own]
  · exact (mergeSort_flatten_map_mergeSort Violation.rangeLe_trans Violation.rangeLe_total reports).symm
  · intro violation mem
    exact Registry.code_of_mem_reports context session.snapshot _ (List.mem_mergeSort.mp mem)
  · refine (pairwise_mergeSort_of_tied Violation.rangeLe_trans Violation.rangeLe_total
      (Registry.reports_pairwise context session.snapshot _ distinct)).imp fun ties same => ?_
    exact ties (Violation.tied_of_range_eq same)

/-- Two rules on the same range: a directive that comes too late, on a line that is too long. -/
theorem Session.analyze_merges_sameRange :
    let texts : RuleTexts := ⟨"Rule", "Found \x7b0\x7d", "A rule."⟩
    let entries := [(Named.name Builtin.directivePosition, texts), (Named.name Builtin.lineLength, texts)]
    let registered (rule : Builtin) : RegisteredRule BuiltinRule := ⟨⟨rule.metadata, ⟨texts, texts⟩⟩, rule.fresh⟩
    let snapshot := Snapshot.standard.withRule (Named.name Builtin.lineLength)
      (.parameters [(LineLength.limitKey, .ofNat 6)])
    let session : Session BuiltinRule := ⟨⟨"/ws"⟩, ⟨"/ws/c.json"⟩,
      ⟨[registered .directivePosition, registered .lineLength]⟩, .opened snapshot, ⟨none, none⟩, none⟩
    let content := "x = 1;\n#Use lib"
    Registry.build ⟨entries, entries⟩ [Builtin.registration .directivePosition, Builtin.registration .lineLength] =
        .ok session.registry ∧
      FileType.ofPath? ⟨"m.os"⟩ = some .os ∧
      ((session.registry.reports ⟨.os, none⟩ session.snapshot (.ofText ⟨"m.os"⟩ .os content)).map fun run =>
          run.map fun violation => (violation.code, violation.range)) =
        [[(Named.name Builtin.directivePosition, .onLine 1 0 8)], [(Named.name Builtin.lineLength, .onLine 1 0 8)]] ∧
      ∃ context reported runs, session.Merges .empty ⟨"m.os"⟩ content context reported runs := by
  intro texts entries registered snapshot session content
  have built : Registry.build ⟨entries, entries⟩
      [Builtin.registration .directivePosition, Builtin.registration .lineLength] = .ok session.registry := by
    decide +kernel
  have supported : FileType.ofPath? ⟨"m.os"⟩ = some .os := by decide +kernel
  exact ⟨built, supported, by decide +kernel, analyze_merges built .empty supported content⟩

end BslLint
