import BslLint.Proofs.Sorting
import BslLint.Rule.Analysis

/-! The instances that a registry supplies, one descriptor after another, and what they report. Sorting is stable, so
it makes no difference whether violations are left out before or after it; and a run that is limited to some rules
reports what a run of all rules reports, without the violations of the rules that are left out. -/

set_option autoImplicit false

namespace BslLint

namespace Violation

theorem rangeLe_trans (first second third : Violation) (left : first.rangeLe second = true)
    (right : second.rangeLe third = true) : first.rangeLe third = true :=
  Source.Range.le_trans left right

theorem rangeLe_total (left right : Violation) : (left.rangeLe right || right.rangeLe left) = true := by
  rw [Bool.or_eq_true]
  exact Source.Range.le_total left.range right.range

theorem filter_inOrder (keep : Violation → Bool) (violations : List Violation) :
    (inOrder violations).filter keep = inOrder (violations.filter keep) :=
  filter_mergeSort rangeLe_trans rangeLe_total keep violations

end Violation

variable {State : Type} [Rule State]

theorem RuleInstance.code_of_mem_run {rule : RuleInstance State} {document : Document} {violation : Violation}
    (reported : violation ∈ rule.run document) : violation.code = rule.descriptor.code := by
  obtain ⟨finding, _, rfl⟩ := List.mem_map.mp reported
  rfl

/-- All violations of a rule have its code, so a rule is left out as a whole or not at all. -/
theorem RuleInstance.filter_run (keep : String → Bool) (rule : RuleInstance State) (document : Document) :
    (rule.run document).filter (fun violation => keep violation.code) =
      if keep rule.descriptor.code then rule.run document else [] := by
  split
  · rename_i kept
    rw [List.filter_eq_self]
    intro violation reported
    rw [code_of_mem_run reported, kept]
  · rename_i dropped
    rw [List.filter_eq_nil_iff]
    intro violation reported
    rwa [code_of_mem_run reported]

theorem filter_flatMap_run (keep : String → Bool) (rules : List (RuleInstance State)) (document : Document) :
    (rules.flatMap fun rule => rule.run document).filter (fun violation => keep violation.code) =
      (rules.filter fun rule => keep rule.descriptor.code).flatMap fun rule => rule.run document := by
  induction rules with
  | nil => rfl
  | cons rule rest ih =>
    rw [List.flatMap_cons, List.filter_append, ih, rule.filter_run keep document, List.filter_cons]
    split <;> rfl

namespace Registry

variable (registry : Registry State)

theorem descriptor_of_instantiate {descriptor : Descriptor} {snapshot : Snapshot} {rule : RuleInstance State}
    (instantiated : registry.instantiate descriptor snapshot = .ok rule) : rule.descriptor = descriptor := by
  unfold instantiate at instantiated
  split at instantiated
  · cases instantiated
  · cases instantiated
    rfl

def instance? (context : Context) (snapshot : Snapshot) (descriptor : Descriptor) :
    Option (RuleInstance State) :=
  if descriptor.isSelected context snapshot then (registry.instantiate descriptor snapshot).toOption else none

theorem descriptor_of_instance? {context : Context} {snapshot : Snapshot} {descriptor : Descriptor}
    {rule : RuleInstance State} (found : registry.instance? context snapshot descriptor = some rule) :
    rule.descriptor = descriptor := by
  unfold instance? at found
  split at found
  · cases made : registry.instantiate descriptor snapshot with
    | error error => simp [made, Except.toOption] at found
    | ok other =>
      simp only [made, Except.toOption, Option.some.injEq] at found
      subst found
      exact registry.descriptor_of_instantiate made
  · cases found

theorem instances_eq_filterMap (context : Context) (snapshot : Snapshot) :
    registry.instances context snapshot =
      registry.descriptors.filterMap (registry.instance? context snapshot) := by
  rw [instances, selected, List.filterMap_filter]
  rfl

-- Whether a run that may be limited to some rules reports violations with a code.
def admits (only : Option (List String)) (code : String) : Bool :=
  only.all fun codes => codes.contains code

omit [Rule State] in
theorem includes_eq (only : Option (List String)) :
    (includes only : RuleInstance State → Bool) = fun rule => admits only rule.descriptor.code := by
  cases only <;> rfl

theorem analyze_only (registry : Registry State) (snapshot : Snapshot) (context : Context)
    (only : Option (List String)) (path : Path) (content : String) :
    registry.analyze snapshot context only path content =
      (registry.analyze snapshot context none path content).filter fun violation => admits only violation.code := by
  have all : (registry.instances context snapshot).filter (includes none) = registry.instances context snapshot :=
    List.filter_eq_self.mpr fun _ _ => rfl
  unfold analyze
  simp only [all, includes_eq only, Violation.filter_inOrder, filter_flatMap_run]

end Registry

-- Rules that do not look where a document is. A registry may hold others: `Rule.check` is given the path.

/-- Whatever its parameters, a rule finds the same in a document under another path. -/
def RegisteredRule.IgnoresPath (rule : RegisteredRule State) : Prop :=
  ∀ (parameters : Parameters) (document : Document) (path : Path),
    Rule.check (Rule.configured rule.fresh parameters) { document with path } =
      Rule.check (Rule.configured rule.fresh parameters) document

theorem Document.ofText_withPath (path other : Path) (fileType : FileType) (text : String) :
    { ofText path fileType text with path := other } = ofText other fileType text := by
  unfold ofText
  cases text.toList with
  | nil => rfl
  | cons char rest =>
    dsimp only
    split <;> rfl

namespace Registry

def IgnoresPath (registry : Registry State) : Prop :=
  ∀ rule ∈ registry.rules, rule.IgnoresPath

variable {registry : Registry State} (ignores : registry.IgnoresPath)
include ignores

theorem IgnoresPath.run_eq {descriptor : Descriptor} {snapshot : Snapshot} {rule : RuleInstance State}
    (made : registry.instantiate descriptor snapshot = .ok rule) (path other : Path) (fileType : FileType)
    (content : String) :
    rule.run (.ofText other fileType content) = rule.run (.ofText path fileType content) := by
  unfold instantiate at made
  cases found : registry.find? descriptor.code with
  | none => simp [found] at made
  | some registered =>
    simp only [found, Except.ok.injEq] at made
    have same := ignores registered (List.mem_of_find?_eq_some found) (descriptor.activation snapshot).parameters
      (.ofText path fileType content) other
    rw [Document.ofText_withPath] at same
    simp [← made, RuleInstance.run, same]

theorem IgnoresPath.analyze_eq (snapshot : Snapshot) (context : Context) (only : Option (List String))
    (path other : Path) (content : String) :
    registry.analyze snapshot context only other content = registry.analyze snapshot context only path content := by
  have same : ∀ rule ∈ (registry.instances context snapshot).filter (includes only),
      rule.run (.ofText other context.fileType content) = rule.run (.ofText path context.fileType content) := by
    intro rule mem
    obtain ⟨descriptor, _, made⟩ := List.mem_filterMap.mp (List.mem_of_mem_filter mem)
    cases outcome : registry.instantiate descriptor snapshot with
    | error error => simp [outcome, Except.toOption] at made
    | ok own =>
      simp only [outcome, Except.toOption, Option.some.injEq] at made
      exact ignores.run_eq (made ▸ outcome) path other context.fileType content
  simp only [analyze, List.flatMap_def, List.map_congr_left same]

theorem IgnoresPath.runRule_eq (snapshot : Snapshot) (code : String) (path other : Path) (fileType : FileType)
    (content : String) :
    registry.runRule snapshot code other fileType content = registry.runRule snapshot code path fileType content := by
  unfold runRule single
  cases registry.lookup? code with
  | none => rfl
  | some descriptor =>
    dsimp only
    cases made : registry.instantiate descriptor snapshot with
    | error error => rfl
    | ok rule => simp [Except.map, ignores.run_eq made path other]

end Registry

end BslLint
