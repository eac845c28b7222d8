import BslLint.Check.Registry
import BslLint.Proofs.Check.Extent
import BslLint.Proofs.Json.Writing
import BslLint.Proofs.Message
import BslLint.Proofs.Rule.Instances
import BslLint.Proofs.Source.Segments

/-! What the built-in rules report is written on one line. The texts of the rules have no line feeds, and what fills them
is made of numbers, fixed words and parts of lines. -/

set_option autoImplicit false

namespace BslLint

open Source

def OneLine (text : String) : Prop :=
  '\n' ∉ text.toList

instance (text : String) : Decidable (OneLine text) :=
  inferInstanceAs (Decidable ('\n' ∉ text.toList))

@[simp] theorem oneLine_append {first second : String} :
    OneLine (first ++ second) ↔ OneLine first ∧ OneLine second := by
  simp [OneLine, String.toList_append]

theorem oneLine_decimal (value : Nat) : OneLine (Text.decimal value) := by
  obtain ⟨digits, written, ⟨_, small⟩, _⟩ := JsonNumeral.exists_digits value
  have plain : ∀ digit < 10, Nat.digitChar digit ≠ '\n' := by decide
  rw [OneLine, Text.decimal, String.toList_ofList, written]
  intro mem
  obtain ⟨digit, known, same⟩ := List.mem_map.mp mem
  exact plain digit (small digit known) same

theorem oneLine_severity (severity : Severity) : OneLine (Named.name severity) := by
  cases severity <;> decide

theorem Message.oneLine_formatChars {arguments : List String} (all : ∀ argument ∈ arguments, OneLine argument)
    {template : List Char} (oneLine : '\n' ∉ template) : '\n' ∉ formatChars arguments template := by
  induction template using template_induction arguments.length with
  | nil => simp [formatChars]
  | placeholder written index rest names ih =>
    rw [formatChars_placeholder names, names.argumentAt_eq, List.mem_append, not_or]
    refine ⟨all _ (List.getElem_mem names.listed), ih fun feed => oneLine ?_⟩
    exact List.mem_cons_of_mem _ (List.mem_append_right _ (List.mem_cons_of_mem _ feed))
  | literal char text unopened ih =>
    rw [formatChars_literal unopened]
    simp only [List.mem_cons, not_or] at oneLine ⊢
    exact ⟨oneLine.1, ih oneLine.2⟩

theorem Message.oneLine_format {template : String} {arguments : List String} (oneLine : OneLine template)
    (all : ∀ argument ∈ arguments, OneLine argument) : OneLine (format template arguments) := by
  rw [OneLine, format, String.toList_ofList]
  exact oneLine_formatChars all oneLine

theorem oneLine_ofList {chars : List Char} (plain : '\n' ∉ chars) : OneLine (String.ofList chars) := by
  rw [OneLine, String.toList_ofList]
  exact plain

theorem oneLine_text {document : Document} {number : Nat} {span : Span}
    (there : document.lines[number]? = some span.line) : OneLine span.text := by
  apply oneLine_ofList
  intro feed
  apply Document.oneLine_of_mem_lines (List.mem_of_getElem? there)
  rw [← span.drop_take_line] at feed
  exact List.mem_of_mem_take (List.mem_of_mem_drop feed)

theorem oneLine_name {line : List Char} {name : Span} (mem : name ∈ names line) : OneLine name.text := by
  apply oneLine_ofList
  intro feed
  exact absurd (isWord_of_mem_names mem feed) (by decide +kernel)

theorem ModalWindow.oneLine_replacement? {name : Span} {replacement : String}
    (found : replacement? name = some replacement) : OneLine replacement := by
  have all : ∀ entry ∈ globalMethods ++ formMethods, OneLine entry.2 := by decide
  obtain ⟨entry, first, rfl⟩ := Option.map_eq_some_iff.mp found
  have mem := List.mem_of_find?_eq_some first
  apply all
  split at mem
  · exact List.mem_append_right _ mem
  · exact List.mem_append_left _ mem

theorem MagicNumber.oneLine_numberText (number : Span) : OneLine (String.ofList (numberText number)) := by
  apply oneLine_ofList
  intro feed
  have kept := (List.mem_filter.mp feed).2
  exact absurd kept (by decide)

theorem BuiltinRule.oneLine_arguments (rule : BuiltinRule) {document : Document} {finding : Finding}
    (mem : finding ∈ Rule.check rule document) : ∀ argument ∈ finding.arguments, OneLine argument := by
  cases rule with
  | lineLength rule =>
    obtain ⟨number, line, _, mem⟩ := mem_checkLines.mp mem
    unfold LineLength.checkLine at mem
    dsimp only at mem
    split at mem
    · cases List.mem_singleton.mp mem
      simp [oneLine_decimal]
    · cases mem
  | serviceTag rule =>
    obtain ⟨number, line, there, mem⟩ := mem_checkLines.mp mem
    obtain ⟨tag, found, rfl⟩ := Option.map_eq_some_iff.mp (Option.mem_toList.mp mem)
    rw [← ServiceTag.line_of_tag? found] at there
    exact List.forall_mem_singleton.mpr (oneLine_text there)
  | yoLetter =>
    obtain ⟨number, line, _, mem⟩ := mem_checkLines.mp mem
    obtain ⟨name, known, rfl⟩ := List.mem_map.mp mem
    exact List.forall_mem_singleton.mpr (oneLine_name (List.mem_of_mem_filter known))
  | modalWindow =>
    obtain ⟨number, line, _, mem⟩ := mem_checkLines.mp mem
    obtain ⟨name, known, found⟩ := List.mem_filterMap.mp mem
    unfold ModalWindow.checkName at found
    split at found
    · obtain ⟨replacement, instead, rfl⟩ := Option.map_eq_some_iff.mp found
      have others := List.forall_mem_singleton.mpr (ModalWindow.oneLine_replacement? instead)
      exact List.forall_mem_cons.mpr ⟨oneLine_name known, others⟩
    · cases found
  | magicNumber rule =>
    obtain ⟨number, line, _, mem⟩ := mem_checkLines.mp mem
    unfold MagicNumber.checkLine at mem
    dsimp only at mem
    split at mem
    · cases mem
    · obtain ⟨span, _, rfl⟩ := List.mem_map.mp mem
      exact List.forall_mem_singleton.mpr (MagicNumber.oneLine_numberText span)
  | commentedCode rule =>
    obtain ⟨block, _, reported⟩ := List.mem_filterMap.mp mem
    obtain ⟨range, _, rfl⟩ := Option.map_eq_some_iff.mp reported
    exact List.forall_mem_nil _
  | directivePosition =>
    have mem := (DirectivePosition.checkFrom_sublist false _).subset mem
    obtain ⟨⟨number, line⟩, known, mem⟩ := List.mem_flatMap.mp mem
    unfold DirectivePosition.checkLine at mem
    split at mem
    · rename_i span found
      cases List.mem_singleton.mp mem
      have own : span.line = line := DirectivePosition.line_of_kindOf found
      have there := Document.mem_numberedLines.mp known
      rw [← own] at there
      exact List.forall_mem_singleton.mpr (oneLine_text there)
    · cases mem

/-- The texts of a violation stand on one line. -/
structure Violation.OneLine (violation : Violation) : Prop where
  code : BslLint.OneLine violation.code
  message : BslLint.OneLine violation.message

theorem Violation.OneLine.display {violation : Violation} (oneLine : violation.OneLine) :
    BslLint.OneLine violation.display := by
  have colon : BslLint.OneLine ":" := by decide
  have blank : BslLint.OneLine ": " := by decide
  have opening : BslLint.OneLine " [" := by decide
  have closing : BslLint.OneLine "] " := by decide
  simp [Violation.display, colon, blank, opening, closing, oneLine_decimal, oneLine_severity, oneLine.code,
    oneLine.message]

theorem Builtin.oneLine_texts {descriptor : Descriptor} (known : descriptor ∈ registry.descriptors) (language : Language) :
    OneLine descriptor.code ∧ OneLine (descriptor.texts language).message := by
  obtain ⟨_, registered, rfl⟩ := List.mem_map.mp known
  obtain ⟨rule, _, rfl⟩ := List.mem_map.mp registered
  cases rule <;> cases language <;> decide +kernel

theorem RuleInstance.oneLine_of_mem_run {rule : RuleInstance BuiltinRule}
    (known : rule.descriptor ∈ Builtin.registry.descriptors) {document : Document} {violation : Violation}
    (mem : violation ∈ rule.run document) : violation.OneLine := by
  obtain ⟨finding, reported, rfl⟩ := List.mem_map.mp mem
  obtain ⟨code, message⟩ := Builtin.oneLine_texts known rule.language
  exact ⟨code, Message.oneLine_format message (rule.state.oneLine_arguments reported)⟩

namespace Builtin

variable {snapshot : Snapshot} {path : Path} {fileType : FileType} {content : String} {violation : Violation}

theorem oneLine_of_mem_analyze {mode : Option CompatibilityMode} {only : Option (List String)}
    (mem : violation ∈ registry.analyze snapshot ⟨fileType, mode⟩ only path content) : violation.OneLine := by
  obtain ⟨rule, included, reported⟩ := List.mem_flatMap.mp (List.mem_mergeSort.mp mem)
  rw [Registry.instances_eq_filterMap] at included
  obtain ⟨descriptor, known, found⟩ := List.mem_filterMap.mp (List.mem_of_mem_filter included)
  rw [← registry.descriptor_of_instance? found] at known
  exact rule.oneLine_of_mem_run known reported

theorem oneLine_of_mem_runRule {code : String} {violations : List Violation}
    (ran : registry.runRule snapshot code path fileType content = .ok violations) (mem : violation ∈ violations) :
    violation.OneLine := by
  unfold Registry.runRule Registry.single at ran
  cases found : registry.lookup? code with
  | none =>
    rw [found] at ran
    cases ran
  | some descriptor =>
    rw [found] at ran
    cases made : registry.instantiate descriptor snapshot with
    | error error => simp [made, Except.map] at ran
    | ok rule =>
      simp only [made, Except.map, Except.ok.injEq] at ran
      subst ran
      obtain ⟨registered, first, rfl⟩ := Option.map_eq_some_iff.mp found
      have known := List.mem_map_of_mem (f := RegisteredRule.descriptor) (List.mem_of_find?_eq_some first)
      rw [← registry.descriptor_of_instantiate made] at known
      exact rule.oneLine_of_mem_run known (List.mem_mergeSort.mp mem)

end Builtin

end BslLint
