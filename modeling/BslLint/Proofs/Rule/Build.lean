import BslLint.Rule.Registry
import Mathlib.Data.List.Forall2

/-! What a registry holds that has been built: the rules in the order of their registration, under distinct
codes, with the texts that the catalog has for them. -/

set_option autoImplicit false

namespace BslLint

theorem Except.bind_eq_ok_iff {Error Value Other : Type} {first : Except Error Value}
    {next : Value → Except Error Other} {result : Other} :
    first >>= next = .ok result ↔ ∃ value, first = .ok value ∧ next value = .ok result := by
  cases first <;> simp [bind, Except.bind]

theorem Except.bind_ok {Error Value Other : Type} {first : Except Error Value}
    {next : Value → Except Error Other} {result : Other} (done : first >>= next = .ok result) :
    ∃ value, first = .ok value ∧ next value = .ok result :=
  bind_eq_ok_iff.mp done

theorem Except.of_map_ok {Error Value Other : Type} {first : Except Error Value} {next : Value → Other}
    {result : Other} (done : first.map next = .ok result) : ∃ value, first = .ok value ∧ next value = result := by
  cases first with
  | error error => cases done
  | ok value => exact ⟨value, rfl, Except.ok.inj done⟩

theorem RuleTexts.firstMissing?_empty : empty.firstMissing? = some "name" := by
  decide

namespace Registry

theorem get?_of_firstMissing?_eq_none {catalog : Catalog} {language : Language} {code : String}
    (complete : ((catalog.get? language code).getD .empty).firstMissing? = none) :
    catalog.get? language code = some ((catalog.get? language code).getD .empty) := by
  cases found : catalog.get? language code with
  | none =>
    rw [found, Option.getD_none, RuleTexts.firstMissing?_empty] at complete
    cases complete
  | some texts => rfl

theorem get?_of_completeTexts {catalog : Catalog} {code : String} {localized : LocalizedTexts}
    (complete : completeTexts catalog code = .ok localized) (language : Language) :
    catalog.get? language code = some (localized.texts language) := by
  simp only [completeTexts] at complete
  split at complete
  · cases complete
  · rename_i en
    split at complete
    · cases complete
    · rename_i ru
      cases complete
      cases language with
      | en => exact get?_of_firstMissing?_eq_none en
      | ru => exact get?_of_firstMissing?_eq_none ru

theorem describe_ok {catalog : Catalog} {taken : List String} {metadata : RuleMetadata}
    {descriptor : Descriptor} (described : describe catalog taken metadata = .ok descriptor) :
    metadata.code ∉ taken ∧ descriptor.metadata = metadata ∧
      ∀ language, catalog.get? language metadata.code = some (descriptor.texts language) := by
  simp only [describe, bind, Except.bind, pure, Except.pure, throw, throwThe, MonadExceptOf.throw]
    at described
  split at described
  · cases described
  split at described
  · cases described
  split at described
  · cases described
  split at described
  · cases described
  · rename_i fresh
    split at described
    · cases described
    · rename_i localized complete
      cases described
      exact ⟨fresh, rfl, get?_of_completeTexts complete⟩

structure Registered {State : Type} (catalog : Catalog) (rule : RuleMetadata × State)
    (registered : RegisteredRule State) : Prop where
  metadata : registered.descriptor.metadata = rule.1
  fresh : registered.fresh = rule.2
  texts : ∀ language, catalog.get? language rule.1.code = some (registered.descriptor.texts language)

variable {State : Type} {catalog : Catalog}

theorem Registered.unique {rule : RuleMetadata × State} {registered other : RegisteredRule State}
    (first : Registered catalog rule registered) (second : Registered catalog rule other) : registered = other := by
  obtain ⟨⟨_, ⟨en, ru⟩⟩, _⟩ := registered
  obtain ⟨⟨_, ⟨en', ru'⟩⟩, _⟩ := other
  obtain ⟨rfl, rfl, texts⟩ := first
  obtain ⟨rfl, rfl, texts'⟩ := second
  obtain rfl : en = en' := Option.some.inj ((texts .en).symm.trans (texts' .en))
  obtain rfl : ru = ru' := Option.some.inj ((texts .ru).symm.trans (texts' .ru))
  rfl

theorem buildFrom_ok {rules : List (RuleMetadata × State)} {taken : List String}
    {registered : List (RegisteredRule State)} (built : buildFrom catalog taken rules = .ok registered) :
    List.Forall₂ (Registered catalog) rules registered ∧ (rules.map fun rule => rule.1.code).Nodup ∧
      ∀ rule ∈ rules, rule.1.code ∉ taken := by
  induction rules generalizing taken registered with
  | nil =>
    cases built
    exact ⟨.nil, List.nodup_nil, nofun⟩
  | cons rule rest ih =>
    obtain ⟨descriptor, described, built⟩ := Except.bind_ok built
    obtain ⟨others, continued, built⟩ := Except.bind_ok built
    cases built
    obtain ⟨fresh, metadata, texts⟩ := describe_ok described
    -- The rest was checked against the codes taken so far together with the first one.
    obtain ⟨registered, distinct, apart⟩ := ih continued
    have notTaken : ∀ other ∈ rest, other.1.code ≠ rule.1.code ∧ other.1.code ∉ taken := by
      intro other present
      have absent := apart other present
      rw [List.mem_cons, not_or] at absent
      exact absent
    refine ⟨.cons ⟨metadata, rfl, texts⟩ registered, ?_, ?_⟩
    · rw [List.map_cons, List.nodup_cons]
      refine ⟨?_, distinct⟩
      intro repeated
      obtain ⟨other, present, same⟩ := List.mem_map.mp repeated
      exact (notTaken other present).1 same
    · intro other present
      cases present with
      | head => exact fresh
      | tail _ later => exact (notTaken other later).2

theorem build_ok {rules : List (RuleMetadata × State)} {registry : Registry State}
    (built : build catalog rules = .ok registry) :
    List.Forall₂ (Registered catalog) rules registry.rules ∧ (rules.map fun rule => rule.1.code).Nodup := by
  unfold build at built
  cases checked : buildFrom catalog [] rules with
  | error error =>
    rw [checked] at built
    cases built
  | ok registered =>
    rw [checked] at built
    cases built
    obtain ⟨registered, distinct, _⟩ := buildFrom_ok checked
    exact ⟨registered, distinct⟩

theorem metadata_of_registered {rules : List (RuleMetadata × State)}
    {registered : List (RegisteredRule State)} (all : List.Forall₂ (Registered catalog) rules registered) :
    (registered.map fun rule => rule.descriptor.metadata) = rules.map Prod.fst := by
  induction all with
  | nil => rfl
  | cons first _ ih => rw [List.map_cons, List.map_cons, ih, first.metadata]

theorem nodup_codes_of_build {rules : List (RuleMetadata × State)} {registry : Registry State}
    (built : build catalog rules = .ok registry) : registry.codes.Nodup := by
  obtain ⟨registered, distinct⟩ := build_ok built
  have codes : registry.codes = (rules.map Prod.fst).map RuleMetadata.code := by
    rw [← metadata_of_registered registered, List.map_map, Registry.codes, descriptors, List.map_map]
    rfl
  rw [codes, List.map_map]
  exact distinct

theorem find?_of_nodup {rules : List (RegisteredRule State)}
    (distinct : (rules.map fun rule => rule.descriptor.code).Nodup) {rule : RegisteredRule State}
    (present : rule ∈ rules) :
    rules.find? (fun other => other.descriptor.code == rule.descriptor.code) = some rule := by
  induction rules with
  | nil => cases present
  | cons first rest ih =>
    rw [List.map_cons, List.nodup_cons] at distinct
    cases present with
    | head => exact List.find?_cons_of_pos BEq.rfl
    | tail _ later =>
      have other : first.descriptor.code ≠ rule.descriptor.code := by
        intro same
        exact distinct.1 (same ▸ List.mem_map_of_mem later)
      rw [List.find?_cons_of_neg (by simpa using other)]
      exact ih distinct.2 later

/-- Looked up by its code, a rule is found itself, and not another rule before it. -/
theorem find?_of_mem {registry : Registry State} (distinct : registry.codes.Nodup) {rule : RegisteredRule State}
    (present : rule ∈ registry.rules) : registry.find? rule.descriptor.code = some rule := by
  unfold codes descriptors at distinct
  rw [List.map_map] at distinct
  exact find?_of_nodup distinct present

end Registry

end BslLint
