import BslLint.Check.Registry
import BslLint.Proofs.Rule.Build
import BslLint.Proofs.Rule.Instances
import Mathlib.Data.List.Basic

/-! What each rule of a registry contributes to the violations of a document. The relations here repeat the
conditions of selection and configuration one by one; the functions that decide them are shown to agree. -/

set_option autoImplicit false

namespace BslLint

/-- When a rule runs: its setting turns it on, its scope covers the file, and the workspace runs on a
platform that is recent enough. -/
structure RuleMetadata.Runs (metadata : RuleMetadata) (context : Context) (snapshot : Snapshot) : Prop where
  turnedOn : (∃ values, snapshot.setting? metadata.code = some (.parameters values)) ∨
    snapshot.setting? metadata.code = some (.toggle true) ∨
    snapshot.setting? metadata.code = none ∧ metadata.activatedByDefault = true
  covered : metadata.scope = .all ∨ metadata.scope = context.fileType.scope
  recent : metadata.compatibilityMode = none ∨ ∃ required actual,
    metadata.compatibilityMode = some required ∧ context.compatibilityMode = some actual ∧ required ≤ actual

namespace Descriptor

variable {descriptor : Descriptor} {context : Context} {snapshot : Snapshot}

theorem enabled_iff : (descriptor.activation snapshot).enabled = true ↔
    (∃ values, snapshot.setting? descriptor.metadata.code = some (.parameters values)) ∨
      snapshot.setting? descriptor.metadata.code = some (.toggle true) ∨
      snapshot.setting? descriptor.metadata.code = none ∧ descriptor.metadata.activatedByDefault = true := by
  unfold activation code
  cases stored : snapshot.setting? descriptor.metadata.code with
  | none => simp
  | some setting => cases setting <;> simp

theorem inScope_iff : descriptor.inScope context = true ↔
    descriptor.metadata.scope = .all ∨ descriptor.metadata.scope = context.fileType.scope := by
  simp [inScope]

theorem fitsMode_iff : descriptor.fitsMode context = true ↔
    descriptor.metadata.compatibilityMode = none ∨ ∃ required actual,
      descriptor.metadata.compatibilityMode = some required ∧ context.compatibilityMode = some actual ∧
        required ≤ actual := by
  unfold fitsMode
  cases descriptor.metadata.compatibilityMode with
  | none => simp
  | some required => cases context.compatibilityMode <;> simp

theorem runs_iff_isSelected (descriptor : Descriptor) (context : Context) (snapshot : Snapshot) :
    descriptor.metadata.Runs context snapshot ↔ descriptor.isSelected context snapshot = true := by
  rw [isSelected, applies, Bool.and_eq_true, Bool.and_eq_true, enabled_iff, inScope_iff, fitsMode_iff]
  constructor
  · intro ⟨turnedOn, covered, recent⟩
    exact ⟨turnedOn, covered, recent⟩
  · intro ⟨turnedOn, covered, recent⟩
    exact ⟨turnedOn, covered, recent⟩

end Descriptor

-- Texts play no part in the selection, so that any will do for the descriptor.
instance (metadata : RuleMetadata) (context : Context) (snapshot : Snapshot) :
    Decidable (metadata.Runs context snapshot) :=
  decidable_of_iff _ (Descriptor.runs_iff_isSelected ⟨metadata, ⟨.empty, .empty⟩⟩ context snapshot).symm

namespace Registry

theorem selected_registered {State : Type} {catalog : Catalog} {rules : List (RuleMetadata × State)}
    {registered : List (RegisteredRule State)} (all : List.Forall₂ (Registered catalog) rules registered)
    (context : Context) (snapshot : Snapshot) :
    List.Forall₂ (Registered catalog) (rules.filter fun rule => rule.1.Runs context snapshot)
      (registered.filter fun rule => rule.descriptor.isSelected context snapshot) := by
  refine List.rel_filter ?_ all
  intro rule registered found
  simp only [decide_eq_true_iff, ← found.metadata]
  exact Descriptor.runs_iff_isSelected registered.descriptor context snapshot

end Registry

/-- The state that a setting leads to from a fresh one. Only parameters that the rule accepts change it. -/
inductive ConfiguredFrom {State : Type} [Rule State] (fresh : State) : Option Setting → State → Prop where
  | absent : ConfiguredFrom fresh none fresh
  | toggled (enabled : Bool) : ConfiguredFrom fresh (some (.toggle enabled)) fresh
  | empty : ConfiguredFrom fresh (some (.parameters [])) fresh
  | refused {values : Parameters} {error : ParameterError} {changed : State} : values ≠ [] →
      Rule.runConfigure values fresh = (.error error, changed) →
      ConfiguredFrom fresh (some (.parameters values)) fresh
  | accepted {values : Parameters} {state : State} : values ≠ [] →
      Rule.runConfigure values fresh = (.ok (), state) →
      ConfiguredFrom fresh (some (.parameters values)) state

variable {State : Type} [Rule State]

theorem Rule.configured_nil (fresh : State) : configured fresh [] = fresh := rfl

theorem Rule.configuredFrom_parameters_iff {fresh state : State} {values : Parameters} :
    ConfiguredFrom fresh (some (.parameters values)) state ↔ state = configured fresh values := by
  unfold configured
  cases values with
  | nil =>
    constructor
    · intro configured
      cases configured with
      | empty => rfl
      | refused given _ => cases given rfl
      | accepted given _ => cases given rfl
    · rintro rfl
      exact .empty
  | cons first rest =>
    rw [List.isEmpty_cons, if_neg Bool.false_ne_true]
    constructor
    · intro configured
      cases configured with
      | refused _ outcome => rw [outcome]
      | accepted _ outcome => rw [outcome]
    · rintro rfl
      split
      · rename_i state outcome
        exact .accepted (List.cons_ne_nil _ _) outcome
      · rename_i error changed outcome
        exact .refused (List.cons_ne_nil _ _) outcome

theorem Descriptor.configuredFrom_iff {descriptor : Descriptor} {snapshot : Snapshot} {fresh state : State} :
    ConfiguredFrom fresh (snapshot.setting? descriptor.code) state ↔
      state = Rule.configured fresh (descriptor.activation snapshot).parameters := by
  unfold activation
  cases snapshot.setting? descriptor.code with
  | none =>
    rw [Rule.configured_nil]
    constructor
    · rintro ⟨⟩
      rfl
    · rintro rfl
      exact .absent
  | some setting =>
    cases setting with
    | toggle enabled =>
      rw [Rule.configured_nil]
      constructor
      · rintro ⟨⟩
        rfl
      · rintro rfl
        exact .toggled enabled
    | parameters values => exact Rule.configuredFrom_parameters_iff

/-- The violation that stands for a finding of a rule whose messages have this template. -/
def RuleMetadata.violation (metadata : RuleMetadata) (template : String) (finding : Source.Finding) :
    Violation where
  code := metadata.code
  severity := metadata.severity
  kind := metadata.kind
  range := finding.range
  message := Message.format template finding.arguments
  tags := metadata.tags

/-- What a rule contributes that runs on a document: one violation for each finding of the rule in its
configured state, in the words of the snapshot's language. -/
inductive Contributes (catalog : Catalog) (snapshot : Snapshot) (document : Document)
    (rule : RuleMetadata × State) : List Violation → Prop where
  | findings {state : State} {texts : RuleTexts} :
      ConfiguredFrom rule.2 (snapshot.setting? rule.1.code) state →
      catalog.get? snapshot.language rule.1.code = some texts →
      Contributes catalog snapshot document rule
        ((Rule.check state document).map (rule.1.violation texts.message))

namespace Registry

def configure (snapshot : Snapshot) (rule : RegisteredRule State) : RuleInstance State where
  descriptor := rule.descriptor
  language := snapshot.language
  state := Rule.configured rule.fresh (rule.descriptor.activation snapshot).parameters

theorem contributes_iff {catalog : Catalog} {rule : RuleMetadata × State} {registered : RegisteredRule State}
    (found : Registered catalog rule registered) (snapshot : Snapshot) (document : Document)
    (violations : List Violation) :
    Contributes catalog snapshot document rule violations ↔
      violations = (configure snapshot registered).run document := by
  have code : registered.descriptor.code = rule.1.code := congrArg RuleMetadata.code found.metadata
  have own : rule.1.violation (registered.descriptor.texts snapshot.language).message =
      (configure snapshot registered).violation := by
    funext finding
    unfold RuleMetadata.violation
    rw [← found.metadata]
    rfl
  have state :
      ConfiguredFrom rule.2 (snapshot.setting? rule.1.code) (configure snapshot registered).state := by
    rw [← code, ← found.fresh]
    exact Descriptor.configuredFrom_iff.mpr rfl
  constructor
  · intro ⟨configured, known⟩
    rw [found.texts, Option.some.injEq] at known
    subst known
    rw [← code, ← found.fresh, Descriptor.configuredFrom_iff] at configured
    rw [configured, own]
    rfl
  · rintro rfl
    have reported : Contributes catalog snapshot document rule _ :=
      .findings state (found.texts snapshot.language)
    rw [own] at reported
    exact reported

variable {registry : Registry State}

/-- With distinct codes, each selected rule is instantiated as itself, so that none is lost. -/
theorem instances_eq_map (distinct : registry.codes.Nodup) (context : Context) (snapshot : Snapshot) :
    registry.instances context snapshot =
      (registry.rules.filter fun rule => rule.descriptor.isSelected context snapshot).map
        (configure snapshot) := by
  unfold instances selected descriptors
  rw [List.filter_map, List.filterMap_map, ← List.filterMap_eq_map]
  apply List.filterMap_congr
  intro rule present
  have known := find?_of_mem distinct (List.mem_of_mem_filter present)
  simp only [Function.comp_apply, instantiate, known, Except.toOption, configure]

theorem forall₂_contributes_iff {catalog : Catalog} {rules : List (RuleMetadata × State)}
    {registered : List (RegisteredRule State)} (all : List.Forall₂ (Registered catalog) rules registered)
    (snapshot : Snapshot) (document : Document) (reported : List (List Violation)) :
    List.Forall₂ (Contributes catalog snapshot document) rules reported ↔
      reported = registered.map fun rule => (configure snapshot rule).run document := by
  induction all generalizing reported with
  | nil => rw [List.forall₂_nil_left_iff, List.map_nil]
  | cons first _ ih =>
    rw [List.forall₂_cons_left_iff, List.map_cons]
    constructor
    · rintro ⟨own, others, contributed, rest, rfl⟩
      rw [(contributes_iff first snapshot document own).mp contributed, (ih others).mp rest]
    · rintro rfl
      exact ⟨_, _, (contributes_iff first snapshot document _).mpr rfl, (ih _).mpr rfl, rfl⟩

end Registry

/-- A registry that has been built reports what the rules contribute that run, one after another in the order
of registration. The contributions are determined, and each running rule has one. -/
theorem Registry.reports_contributions {catalog : Catalog} {rules : List (RuleMetadata × State)}
    {registry : Registry State} (built : build catalog rules = .ok registry) (context : Context)
    (snapshot : Snapshot) (document : Document) :
    let running := rules.filter fun rule => rule.1.Runs context snapshot
    ∃ contributions,
      (∀ others, List.Forall₂ (Contributes catalog snapshot document) running others ↔
        others = contributions) ∧
      ((registry.instances context snapshot).flatMap fun rule => rule.run document) =
        contributions.flatten ∧
      ((registry.instances context snapshot).map fun rule => rule.descriptor.metadata) =
        running.map Prod.fst := by
  intro running
  have registered := (build_ok built).1
  have selected := selected_registered registered context snapshot
  refine ⟨_, forall₂_contributes_iff selected snapshot document, ?_, ?_⟩
  · rw [instances_eq_map (nodup_codes_of_build built), List.flatMap_map, List.flatMap_def]
  · rw [instances_eq_map (nodup_codes_of_build built), List.map_map]
    exact metadata_of_registered selected

/-- A rule whose setting is refused reports with its default, beside a rule that finds something and one that is off. -/
theorem Registry.reports_contributions_refusedLimit :
    let lengths : RuleTexts := ⟨"Line length", "Longer than \x7b1\x7d", "Lines fit a screen."⟩
    let numbers : RuleTexts := ⟨"Number", "The number \x7b0\x7d", "Numbers have names."⟩
    let letters : RuleTexts := ⟨"Letter", "The name \x7b0\x7d", "Names do without a letter."⟩
    let texts := [("LineLength", lengths), ("MagicNumber", numbers), ("YoLetterUsage", letters)]
    let catalog : Catalog := ⟨texts, texts⟩
    let rules := [Builtin.registration .lineLength, Builtin.registration .magicNumber, Builtin.registration .yoLetter]
    let registry : Registry BuiltinRule :=
      ⟨[⟨⟨Builtin.metadata .lineLength, ⟨lengths, lengths⟩⟩, Builtin.fresh .lineLength⟩,
        ⟨⟨Builtin.metadata .magicNumber, ⟨numbers, numbers⟩⟩, Builtin.fresh .magicNumber⟩,
        ⟨⟨Builtin.metadata .yoLetter, ⟨letters, letters⟩⟩, Builtin.fresh .yoLetter⟩]⟩
    let context : Context := ⟨.bsl, none⟩
    let snapshot := (Snapshot.standard.withRule "LineLength" (.parameters [(LineLength.limitKey, .ofNat 0)])).withRule
      "YoLetterUsage" (.toggle false)
    let line := "Если Ёж > 42 Тогда ".toList ++ List.replicate 102 '.'
    let document := Document.ofText ⟨"m.bsl"⟩ .bsl (String.ofList line)
    let running := rules.filter fun rule => rule.1.Runs context snapshot
    build catalog rules = .ok registry ∧ running = rules.take 2 ∧
    (((registry.instances context snapshot).flatMap fun rule => rule.run document).map Violation.message =
      ["Longer than 120", "The number 42"]) ∧
    ∃ contributions,
      (∀ others, List.Forall₂ (Contributes catalog snapshot document) running others ↔
        others = contributions) ∧
      ((registry.instances context snapshot).flatMap fun rule => rule.run document) =
        contributions.flatten ∧
      ((registry.instances context snapshot).map fun rule => rule.descriptor.metadata) =
        running.map Prod.fst := by
  intro lengths numbers letters texts catalog rules registry context snapshot line document running
  have built : build catalog rules = .ok registry := by decide +kernel
  exact ⟨built, by decide +kernel, by decide +kernel, Registry.reports_contributions built _ _ _⟩

end BslLint
