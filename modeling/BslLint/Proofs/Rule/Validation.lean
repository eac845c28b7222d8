import BslLint.Check.Registry
import BslLint.Proofs.Rule.Build

/-! What a registry asks of the rules that are registered, and what it says about the first rule that does not meet
it. The conditions stand here one by one; the checks are shown to decide them, in this order. -/

set_option autoImplicit false

namespace BslLint

namespace RuleTexts

structure Complete (texts : RuleTexts) : Prop where
  name : Text.isBlank texts.name.toList = false
  message : Text.isBlank texts.message.toList = false
  description : Text.isBlank texts.description.toList = false

inductive FirstBlank (texts : RuleTexts) : String → Prop where
  | name : Text.isBlank texts.name.toList = true → FirstBlank texts "name"
  | message : Text.isBlank texts.name.toList = false → Text.isBlank texts.message.toList = true →
      FirstBlank texts "message"
  | description : Text.isBlank texts.name.toList = false → Text.isBlank texts.message.toList = false →
      Text.isBlank texts.description.toList = true → FirstBlank texts "description"

variable {texts : RuleTexts}

theorem complete_iff : texts.Complete ↔ texts.firstMissing? = none := by
  simp only [firstMissing?, fields, Option.map_eq_none_iff, List.find?_eq_none, List.mem_cons, List.not_mem_nil,
    or_false, forall_eq_or_imp, forall_eq, Bool.not_eq_true]
  constructor
  · intro ⟨name, message, description⟩
    exact ⟨name, message, description⟩
  · intro ⟨name, message, description⟩
    exact ⟨name, message, description⟩

theorem firstBlank_iff {field : String} : texts.FirstBlank field ↔ texts.firstMissing? = some field := by
  unfold firstMissing? fields
  constructor
  · intro blank
    cases blank <;> simp [List.find?, *]
  · intro missing
    cases name : Text.isBlank texts.name.toList with
    | true =>
      simp only [List.find?, name, Option.map_some, Option.some.injEq] at missing
      exact missing ▸ .name name
    | false =>
      cases message : Text.isBlank texts.message.toList with
      | true =>
        simp only [List.find?, name, message, Option.map_some, Option.some.injEq] at missing
        exact missing ▸ .message name message
      | false =>
        cases description : Text.isBlank texts.description.toList with
        | true =>
          simp only [List.find?, name, message, description, Option.map_some, Option.some.injEq] at missing
          exact missing ▸ .description name message description
        | false => simp [List.find?, name, message, description] at missing

end RuleTexts

/-- The catalog has texts for a code, of which none is blank. -/
def Catalog.Describes (catalog : Catalog) (language : Language) (code : String) : Prop :=
  ∃ texts, catalog.get? language code = some texts ∧ texts.Complete

theorem Catalog.describes_iff {catalog : Catalog} {language : Language} {code : String} :
    catalog.Describes language code ↔ ((catalog.get? language code).getD .empty).firstMissing? = none := by
  constructor
  · rintro ⟨texts, found, complete⟩
    rw [found, Option.getD_some]
    exact RuleTexts.complete_iff.mp complete
  · intro complete
    exact ⟨_, Registry.get?_of_firstMissing?_eq_none complete, RuleTexts.complete_iff.mpr complete⟩

/-- What a rule declares is in order: a code that is not blank, and one to three tags, each of them once. -/
structure RuleMetadata.WellFormed (metadata : RuleMetadata) : Prop where
  code : Text.isBlank metadata.code.toList = false
  tagCount : 1 ≤ metadata.tags.length ∧ metadata.tags.length ≤ 3
  tags : metadata.tags.Nodup

namespace Registry

/-- What a registry asks of a rule that follows rules with the codes `taken`. -/
structure Accepts (catalog : Catalog) (taken : List String) (metadata : RuleMetadata) : Prop where
  wellFormed : metadata.WellFormed
  code : metadata.code ∉ taken
  texts : ∀ language, catalog.Describes language metadata.code

/-- Why a registry refuses a rule that follows rules with the codes `taken`. A reason counts if none of those above
it applies. -/
inductive Refuses (catalog : Catalog) (taken : List String) (metadata : RuleMetadata) : RegistryError → Prop where
  | emptyCode : Text.isBlank metadata.code.toList = true → Refuses catalog taken metadata .emptyCode
  | tagCount : Text.isBlank metadata.code.toList = false →
      ¬ (1 ≤ metadata.tags.length ∧ metadata.tags.length ≤ 3) →
      Refuses catalog taken metadata (.tagCount metadata.code metadata.tags.length)
  | duplicateTag {before after : List Tag} {tag : Tag} : Text.isBlank metadata.code.toList = false →
      1 ≤ metadata.tags.length ∧ metadata.tags.length ≤ 3 → metadata.tags = before ++ tag :: after →
      before.Nodup → tag ∈ before → Refuses catalog taken metadata (.duplicateTag metadata.code tag)
  | duplicateCode : metadata.WellFormed → metadata.code ∈ taken →
      Refuses catalog taken metadata (.duplicateCode metadata.code)
  | missingText {language : Language} {field : String} : metadata.WellFormed → metadata.code ∉ taken →
      (language = .ru → catalog.Describes .en metadata.code) →
      ((catalog.get? language metadata.code).getD .empty).FirstBlank field →
      Refuses catalog taken metadata (.missingText metadata.code language field)

section

variable {Item : Type} [DecidableEq Item] {seen items : List Item}

theorem firstRepeated?_eq_none_iff :
    firstRepeated? seen items = none ↔ items.Nodup ∧ ∀ item ∈ items, item ∉ seen := by
  induction items generalizing seen with
  | nil => simp [firstRepeated?]
  | cons item rest ih =>
    unfold firstRepeated?
    split
    · rename_i repeated
      simp [repeated]
    · rename_i new
      rw [ih, List.nodup_cons]
      constructor
      · rintro ⟨distinct, apart⟩
        refine ⟨⟨fun later => apart item later List.mem_cons_self, distinct⟩, ?_⟩
        intro other mem
        rcases List.mem_cons.mp mem with rfl | later
        · exact new
        · exact fun known => apart other later (List.mem_cons_of_mem _ known)
      · rintro ⟨⟨once, distinct⟩, apart⟩
        refine ⟨distinct, fun other later known => ?_⟩
        rcases List.mem_cons.mp known with rfl | known
        · exact once later
        · exact apart other (List.mem_cons_of_mem _ later) known

theorem firstRepeated?_eq_some_iff {item : Item} : firstRepeated? seen items = some item ↔
    ∃ before after, items = before ++ item :: after ∧ before.Nodup ∧ (∀ other ∈ before, other ∉ seen) ∧
      (item ∈ before ∨ item ∈ seen) := by
  induction items generalizing seen with
  | nil => simp [firstRepeated?]
  | cons first rest ih =>
    unfold firstRepeated?
    split
    · rename_i repeated
      constructor
      · rintro ⟨⟩
        exact ⟨[], rest, rfl, List.nodup_nil, nofun, .inr repeated⟩
      · rintro ⟨before, after, split, _, apart, _⟩
        cases before with
        | nil =>
          cases split
          rfl
        | cons head before =>
          cases split
          exact absurd repeated (apart first List.mem_cons_self)
    · rename_i new
      rw [ih]
      constructor
      · rintro ⟨before, after, rfl, distinct, apart, again⟩
        have firstOnce : first ∉ before := fun mem => apart first mem List.mem_cons_self
        refine ⟨first :: before, after, rfl, List.nodup_cons.mpr ⟨firstOnce, distinct⟩, ?_, ?_⟩
        · intro other mem
          rcases List.mem_cons.mp mem with rfl | later
          · exact new
          · exact fun known => apart other later (List.mem_cons_of_mem _ known)
        · rcases again with inside | known
          · exact .inl (List.mem_cons_of_mem _ inside)
          · rcases List.mem_cons.mp known with rfl | known
            · exact .inl List.mem_cons_self
            · exact .inr known
      · rintro ⟨before, after, split, distinct, apart, again⟩
        cases before with
        | nil =>
          cases split
          exact absurd (again.resolve_left (List.not_mem_nil)) new
        | cons head before =>
          cases split
          obtain ⟨firstOnce, distinct⟩ := List.nodup_cons.mp distinct
          refine ⟨before, after, rfl, distinct, ?_, ?_⟩
          · intro other mem known
            rcases List.mem_cons.mp known with rfl | known
            · exact firstOnce mem
            · exact apart other (List.mem_cons_of_mem _ mem) known
          · rcases again with inside | known
            · rcases List.mem_cons.mp inside with rfl | inside
              · exact .inr List.mem_cons_self
              · exact .inl inside
            · exact .inr (List.mem_cons_of_mem _ known)

end

theorem completeTexts_eq_ok_iff {catalog : Catalog} {code : String} {localized : LocalizedTexts} :
    completeTexts catalog code = .ok localized ↔
      (∀ language, catalog.Describes language code) ∧ localized = catalog.localized code := by
  have all : (∀ language, catalog.Describes language code) ↔
      catalog.Describes .en code ∧ catalog.Describes .ru code :=
    ⟨fun described => ⟨described .en, described .ru⟩, fun ⟨en, ru⟩ language => by cases language <;> assumption⟩
  rw [all, Catalog.describes_iff, Catalog.describes_iff]
  unfold completeTexts
  simp only [Catalog.localized]
  cases ((catalog.get? .en code).getD .empty).firstMissing? with
  | some field => simp
  | none => cases ((catalog.get? .ru code).getD .empty).firstMissing? <;> simp [eq_comm]

theorem completeTexts_eq_error_iff {catalog : Catalog} {code : String} {error : RegistryError} :
    completeTexts catalog code = .error error ↔
      ∃ language field, (language = .ru → catalog.Describes .en code) ∧
        ((catalog.get? language code).getD .empty).FirstBlank field ∧ error = .missingText code language field := by
  simp only [RuleTexts.firstBlank_iff, Catalog.describes_iff]
  unfold completeTexts
  simp only [Catalog.localized]
  constructor
  · intro refused
    split at refused
    · rename_i field en
      cases refused
      exact ⟨.en, field, nofun, en, rfl⟩
    · rename_i en
      split at refused
      · rename_i field ru
        cases refused
        exact ⟨.ru, field, fun _ => en, ru, rfl⟩
      · cases refused
  · rintro ⟨language, field, described, blank, rfl⟩
    cases language with
    | en => simp only [blank]
    | ru => simp only [described rfl, blank]

variable {catalog : Catalog} {taken : List String} {metadata : RuleMetadata}

theorem describe_eq (catalog : Catalog) (taken : List String) (metadata : RuleMetadata) :
    describe catalog taken metadata =
      if Text.isBlank metadata.code.toList then .error .emptyCode
      else if metadata.tags.length = 0 ∨ 3 < metadata.tags.length then
        .error (.tagCount metadata.code metadata.tags.length)
      else match firstRepeated? [] metadata.tags with
        | some tag => .error (.duplicateTag metadata.code tag)
        | none =>
          if metadata.code ∈ taken then .error (.duplicateCode metadata.code)
          else (completeTexts catalog metadata.code).map (Descriptor.mk metadata) := by
  simp only [describe, bind, Except.bind, pure, Except.pure, throw, throwThe, MonadExceptOf.throw]
  split
  · rfl
  · split
    · rfl
    · cases firstRepeated? [] metadata.tags with
      | some tag => rfl
      | none =>
        simp only
        split
        · rfl
        · cases completeTexts catalog metadata.code <;> rfl

theorem wellFormed_iff : metadata.WellFormed ↔ Text.isBlank metadata.code.toList = false ∧
    ¬ (metadata.tags.length = 0 ∨ 3 < metadata.tags.length) ∧ firstRepeated? [] metadata.tags = none := by
  rw [firstRepeated?_eq_none_iff]
  constructor
  · intro ⟨code, tagCount, tags⟩
    exact ⟨code, by omega, tags, by simp⟩
  · intro ⟨code, tagCount, tags, _⟩
    exact ⟨code, by omega, tags⟩

theorem describe_of_wellFormed (wellFormed : metadata.WellFormed) : describe catalog taken metadata =
    if metadata.code ∈ taken then .error (.duplicateCode metadata.code)
    else (completeTexts catalog metadata.code).map (Descriptor.mk metadata) := by
  obtain ⟨code, tagCount, tags⟩ := wellFormed_iff.mp wellFormed
  rw [describe_eq, if_neg (by simp [code]), if_neg tagCount, tags]

theorem describe_of_accepts (accepts : Accepts catalog taken metadata) :
    describe catalog taken metadata = .ok ⟨metadata, catalog.localized metadata.code⟩ := by
  rw [describe_of_wellFormed accepts.wellFormed, if_neg accepts.code, completeTexts_eq_ok_iff.mpr ⟨accepts.texts, rfl⟩]
  rfl

theorem describe_of_refuses {error : RegistryError} (refuses : Refuses catalog taken metadata error) :
    describe catalog taken metadata = .error error := by
  cases refuses with
  | emptyCode blank => rw [describe_eq, if_pos blank]
  | tagCount code count => rw [describe_eq, if_neg (by simp [code]), if_pos (by omega)]
  | duplicateTag code count split distinct again =>
    have repeated := firstRepeated?_eq_some_iff.mpr ⟨_, _, split, distinct, fun _ _ => List.not_mem_nil, .inl again⟩
    rw [describe_eq, if_neg (by simp [code]), if_neg (by omega), repeated]
  | duplicateCode wellFormed known => rw [describe_of_wellFormed wellFormed, if_pos known]
  | missingText wellFormed new described blank =>
    rw [describe_of_wellFormed wellFormed, if_neg new,
      completeTexts_eq_error_iff.mpr ⟨_, _, described, blank, rfl⟩]
    rfl

-- Every rule is accepted, or refused for a reason.
theorem accepts_or_refuses (catalog : Catalog) (taken : List String) (metadata : RuleMetadata) :
    Accepts catalog taken metadata ∨ ∃ error, Refuses catalog taken metadata error := by
  by_cases blank : Text.isBlank metadata.code.toList = true
  · exact .inr ⟨_, .emptyCode blank⟩
  rw [Bool.not_eq_true] at blank
  by_cases count : 1 ≤ metadata.tags.length ∧ metadata.tags.length ≤ 3
  swap
  · exact .inr ⟨_, .tagCount blank count⟩
  cases repeated : firstRepeated? [] metadata.tags with
  | some tag =>
    obtain ⟨before, after, split, distinct, _, again⟩ := firstRepeated?_eq_some_iff.mp repeated
    exact .inr ⟨_, .duplicateTag blank count split distinct (again.resolve_right List.not_mem_nil)⟩
  | none =>
    have wellFormed : metadata.WellFormed := ⟨blank, count, (firstRepeated?_eq_none_iff.mp repeated).1⟩
    by_cases known : metadata.code ∈ taken
    · exact .inr ⟨_, .duplicateCode wellFormed known⟩
    cases complete : completeTexts catalog metadata.code with
    | error error =>
      obtain ⟨language, field, described, missing, _⟩ := completeTexts_eq_error_iff.mp complete
      exact .inr ⟨_, .missingText wellFormed known described missing⟩
    | ok localized => exact .inl ⟨wellFormed, known, (completeTexts_eq_ok_iff.mp complete).1⟩

theorem Refuses.not_accepts {error : RegistryError} (refuses : Refuses catalog taken metadata error) :
    ¬ Accepts catalog taken metadata := by
  intro accepts
  have described := describe_of_accepts accepts
  rw [describe_of_refuses refuses] at described
  cases described

theorem Refuses.unique {error other : RegistryError} (refuses : Refuses catalog taken metadata error)
    (refusesToo : Refuses catalog taken metadata other) : error = other := by
  have described := describe_of_refuses refuses
  rw [describe_of_refuses refusesToo] at described
  exact (Except.error.inj described).symm

-- It matters which codes are taken, and not in which order.
theorem Refuses.congr {other : List String} (same : ∀ code, code ∈ taken ↔ code ∈ other) {error : RegistryError}
    (refuses : Refuses catalog taken metadata error) : Refuses catalog other metadata error := by
  cases refuses with
  | emptyCode blank => exact .emptyCode blank
  | tagCount code count => exact .tagCount code count
  | duplicateTag code count split distinct again => exact .duplicateTag code count split distinct again
  | duplicateCode wellFormed known => exact .duplicateCode wellFormed ((same _).mp known)
  | missingText wellFormed new described blank =>
    exact .missingText wellFormed ((same _).not.mp new) described blank

theorem accepts_cons_iff {code : String} :
    Accepts catalog (code :: taken) metadata ↔ code ≠ metadata.code ∧ Accepts catalog taken metadata := by
  constructor
  · intro ⟨wellFormed, new, texts⟩
    rw [List.mem_cons, not_or] at new
    exact ⟨Ne.symm new.1, wellFormed, new.2, texts⟩
  · intro ⟨other, wellFormed, new, texts⟩
    exact ⟨wellFormed, List.not_mem_cons_of_ne_of_not_mem other.symm new, texts⟩

variable {State : Type} {rule : RuleMetadata × State} {rules : List (RuleMetadata × State)}

theorem buildFrom_cons_of_accepts (accepts : Accepts catalog taken rule.1) :
    buildFrom catalog taken (rule :: rules) = (buildFrom catalog (rule.1.code :: taken) rules).map
      (⟨⟨rule.1, catalog.localized rule.1.code⟩, rule.2⟩ :: ·) := by
  rw [buildFrom, describe_of_accepts accepts]
  cases buildFrom catalog (rule.1.code :: taken) rules <;> rfl

theorem buildFrom_cons_of_refuses {error : RegistryError} (refuses : Refuses catalog taken rule.1 error) :
    buildFrom catalog taken (rule :: rules) = .error error := by
  rw [buildFrom, describe_of_refuses refuses]
  rfl

theorem buildFrom_isOk_iff : (∃ registered, buildFrom catalog taken rules = .ok registered) ↔
    (∀ rule ∈ rules, Accepts catalog taken rule.1) ∧
      rules.Pairwise fun earlier later => earlier.1.code ≠ later.1.code := by
  induction rules generalizing taken with
  | nil => simp [buildFrom]
  | cons rule rest ih =>
    rw [List.forall_mem_cons, List.pairwise_cons]
    rcases accepts_or_refuses catalog taken rule.1 with accepts | ⟨error, refuses⟩
    · have continued : (∃ registered, buildFrom catalog taken (rule :: rest) = .ok registered) ↔
          ∃ registered, buildFrom catalog (rule.1.code :: taken) rest = .ok registered := by
        rw [buildFrom_cons_of_accepts accepts]
        cases buildFrom catalog (rule.1.code :: taken) rest <;> simp [Except.map]
      -- That the others are accepted after the first one says that they have other codes.
      rw [continued, ih]
      simp only [accepts_cons_iff, forall_and, accepts, true_and]
      constructor
      · rintro ⟨⟨apart, others⟩, distinct⟩
        exact ⟨others, apart, distinct⟩
      · rintro ⟨others, apart, distinct⟩
        exact ⟨⟨apart, others⟩, distinct⟩
    · simp [buildFrom_cons_of_refuses refuses, refuses.not_accepts]

theorem buildFrom_eq_error_iff {error : RegistryError} : buildFrom catalog taken rules = .error error ↔
    ∃ earlier rule later, rules = earlier ++ rule :: later ∧
      (∃ registered, buildFrom catalog taken earlier = .ok registered) ∧
      Refuses catalog (taken ++ earlier.map fun rule => rule.1.code) rule.1 error := by
  induction rules generalizing taken with
  | nil => simp [buildFrom]
  | cons first rest ih =>
    rcases accepts_or_refuses catalog taken first.1 with accepts | ⟨reason, refuses⟩
    · have continued : buildFrom catalog taken (first :: rest) = .error error ↔
          buildFrom catalog (first.1.code :: taken) rest = .error error := by
        rw [buildFrom_cons_of_accepts accepts]
        cases buildFrom catalog (first.1.code :: taken) rest <;> simp [Except.map]
      have codes (earlier : List (RuleMetadata × State)) (code : String) :
          code ∈ first.1.code :: taken ++ earlier.map (fun rule => rule.1.code) ↔
            code ∈ taken ++ (first :: earlier).map fun rule => rule.1.code := by
        simp [or_left_comm]
      rw [continued, ih]
      constructor
      · rintro ⟨earlier, rule, later, rfl, ⟨registered, built⟩, refuses⟩
        refine ⟨first :: earlier, rule, later, rfl, ?_, refuses.congr (codes earlier)⟩
        rw [buildFrom_cons_of_accepts accepts, built]
        exact ⟨_, rfl⟩
      · rintro ⟨earlier, rule, later, split, ⟨registered, built⟩, refuses⟩
        cases earlier with
        | nil =>
          cases split
          rw [List.map_nil, List.append_nil] at refuses
          exact absurd accepts refuses.not_accepts
        | cons head earlier =>
          cases split
          rw [buildFrom_cons_of_accepts accepts] at built
          refine ⟨earlier, rule, later, rfl, ?_, refuses.congr fun code => (codes earlier code).symm⟩
          cases others : buildFrom catalog (first.1.code :: taken) earlier with
          | error error =>
            rw [others] at built
            cases built
          | ok registered => exact ⟨registered, rfl⟩
    · rw [buildFrom_cons_of_refuses refuses, Except.error.injEq]
      constructor
      · rintro rfl
        exact ⟨[], first, rest, rfl, ⟨[], rfl⟩, by simpa using refuses⟩
      · rintro ⟨earlier, rule, later, split, ⟨registered, built⟩, refusesToo⟩
        cases earlier with
        | nil =>
          cases split
          rw [List.map_nil, List.append_nil] at refusesToo
          exact refuses.unique refusesToo
        | cons head earlier =>
          cases split
          rw [buildFrom_cons_of_refuses refuses] at built
          cases built

theorem build_eq_ok_iff {registry : Registry State} :
    build catalog rules = .ok registry ↔ buildFrom catalog [] rules = .ok registry.rules := by
  unfold build
  cases buildFrom catalog [] rules with
  | error error => simp [Except.map]
  | ok registered =>
    cases registry
    simp [Except.map]

theorem build_isOk_iff : (∃ registry, build catalog rules = .ok registry) ↔
    ∃ registered, buildFrom catalog [] rules = .ok registered := by
  simp only [build_eq_ok_iff]
  exact ⟨fun ⟨registry, built⟩ => ⟨registry.rules, built⟩, fun ⟨registered, built⟩ => ⟨⟨registered⟩, built⟩⟩

theorem build_eq_error_iff {error : RegistryError} :
    build catalog rules = .error error ↔ buildFrom catalog [] rules = .error error := by
  unfold build
  cases buildFrom catalog [] rules <;> simp [Except.map]

variable {registry : Registry State}

theorem find?_eq_some_iff (distinct : registry.codes.Nodup) {code : String} {registered : RegisteredRule State} :
    registry.find? code = some registered ↔ registered ∈ registry.rules ∧ registered.descriptor.code = code := by
  constructor
  · intro found
    exact ⟨List.mem_of_find?_eq_some found, by simpa using List.find?_some found⟩
  · rintro ⟨mem, rfl⟩
    exact find?_of_mem distinct mem

theorem lookup?_eq_some_iff (distinct : registry.codes.Nodup) {code : String} {descriptor : Descriptor} :
    registry.lookup? code = some descriptor ↔ descriptor ∈ registry.descriptors ∧ descriptor.code = code := by
  simp only [lookup?, descriptors, Option.map_eq_some_iff, List.mem_map, find?_eq_some_iff distinct]
  constructor
  · rintro ⟨registered, ⟨mem, rfl⟩, rfl⟩
    exact ⟨⟨registered, mem, rfl⟩, rfl⟩
  · rintro ⟨⟨registered, mem, rfl⟩, rfl⟩
    exact ⟨registered, ⟨mem, rfl⟩, rfl⟩

theorem codes_and_states_of_registered {registered : List (RegisteredRule State)}
    (all : List.Forall₂ (Registered catalog) rules registered) :
    (registered.map fun rule => (rule.descriptor.code, rule.fresh)) = rules.map fun rule => (rule.1.code, rule.2) := by
  induction all with
  | nil => rfl
  | cons first _ ih => rw [List.map_cons, List.map_cons, ih, Descriptor.code, first.metadata, first.fresh]

theorem fresh_of_find?_iff (distinct : registry.codes.Nodup)
    (all : List.Forall₂ (Registered catalog) rules registry.rules) {code : String} {fresh : State} :
    (registry.find? code).map RegisteredRule.fresh = some fresh ↔
      ∃ rule ∈ rules, rule.1.code = code ∧ rule.2 = fresh := by
  have listed : (code, fresh) ∈ (registry.rules.map fun rule => (rule.descriptor.code, rule.fresh)) ↔
      (code, fresh) ∈ rules.map fun rule => (rule.1.code, rule.2) := by
    rw [codes_and_states_of_registered all]
  simpa only [List.mem_map, Prod.mk.injEq, Option.map_eq_some_iff, find?_eq_some_iff distinct, and_assoc] using listed

/-- A registry that stands for the rules that were registered: each rule in its place, with the catalog's texts and
the state that it was registered with, and found under its own code and under no other. -/
structure Represents (catalog : Catalog) (rules : List (RuleMetadata × State)) (registry : Registry State) :
    Prop where
  registered : List.Forall₂ (Registered catalog) rules registry.rules
  lookup : ∀ code descriptor, registry.lookup? code = some descriptor ↔
    descriptor ∈ registry.descriptors ∧ descriptor.code = code
  fresh : ∀ code fresh, (registry.find? code).map RegisteredRule.fresh = some fresh ↔
    ∃ rule ∈ rules, rule.1.code = code ∧ rule.2 = fresh

/-- A registry is built if every rule is in order and has a code of its own. Otherwise the first rule that is not
accepted decides, whatever follows it. -/
theorem build_validates (catalog : Catalog) (rules : List (RuleMetadata × State)) :
    ((∃ registry, build catalog rules = .ok registry) ↔
      (∀ rule ∈ rules, rule.1.WellFormed ∧ ∀ language, catalog.Describes language rule.1.code) ∧
        rules.Pairwise fun earlier later => earlier.1.code ≠ later.1.code) ∧
    (∀ registry, build catalog rules = .ok registry → Represents catalog rules registry) ∧
    (∀ error, build catalog rules = .error error ↔
      ∃ earlier rule later, rules = earlier ++ rule :: later ∧ (∃ registry, build catalog earlier = .ok registry) ∧
        Refuses catalog (earlier.map fun rule => rule.1.code) rule.1 error) ∧
    ∀ error more, build catalog rules = .error error → build catalog (rules ++ more) = .error error := by
  have refused {error : RegistryError} (rules : List (RuleMetadata × State)) :
      build catalog rules = .error error ↔ ∃ earlier rule later, rules = earlier ++ rule :: later ∧
        (∃ registry, build catalog earlier = .ok registry) ∧
        Refuses catalog (earlier.map fun rule => rule.1.code) rule.1 error := by
    simp only [build_eq_error_iff, buildFrom_eq_error_iff, build_isOk_iff, List.nil_append]
  refine ⟨?_, ?_, fun error => refused rules, ?_⟩
  · rw [build_isOk_iff, buildFrom_isOk_iff]
    refine and_congr_left' (forall₂_congr fun rule _ => ?_)
    constructor
    · intro accepts
      exact ⟨accepts.wellFormed, accepts.texts⟩
    · intro ⟨wellFormed, texts⟩
      exact ⟨wellFormed, List.not_mem_nil, texts⟩
  · intro registry built
    have registered := (build_ok built).1
    have distinct := nodup_codes_of_build built
    exact ⟨registered, fun _ _ => lookup?_eq_some_iff distinct, fun _ _ => fresh_of_find?_iff distinct registered⟩
  · intro error more failed
    obtain ⟨earlier, rule, later, rfl, built, refuses⟩ := (refused rules).mp failed
    exact (refused _).mpr ⟨earlier, rule, later ++ more, by simp, built, refuses⟩

/-- A rule on its own, the same rule twice, and then a rule without a code after it. -/
theorem build_validates_repeatedCode :
    let texts : RuleTexts := ⟨"Line length", "Longer than \x7b1\x7d", "Lines fit a screen."⟩
    let catalog : Catalog := ⟨[("LineLength", texts)], [("LineLength", texts)]⟩
    let rule := Builtin.registration .lineLength
    let nameless : RuleMetadata × BuiltinRule := ({ rule.1 with code := " " }, rule.2)
    let registry : Registry BuiltinRule := ⟨[⟨⟨rule.1, ⟨texts, texts⟩⟩, rule.2⟩]⟩
    build catalog [rule] = .ok registry ∧ Represents catalog [rule] registry ∧
      build catalog [rule, rule] = .error (.duplicateCode "LineLength") ∧
      build catalog ([rule, rule] ++ [nameless]) = .error (.duplicateCode "LineLength") := by
  intro texts catalog rule nameless registry
  have built : build catalog [rule] = .ok registry := by decide +kernel
  have failed : build catalog [rule, rule] = .error (.duplicateCode "LineLength") := by decide +kernel
  exact ⟨built, (build_validates catalog [rule]).2.1 registry built, failed,
    (build_validates catalog [rule, rule]).2.2.2 _ [nameless] failed⟩

end Registry

namespace Builtin

open Registry

theorem isBlank_ofList {char : Char} {rest : List Char} (visible : Text.isSpace char = false) :
    Text.isBlank (String.ofList (char :: rest)).toList = false := by
  rw [String.toList_ofList, Text.isBlank, List.all_cons, visible, Bool.false_and]

theorem isBlank_append {start rest : String} (visible : Text.isBlank start.toList = false) :
    Text.isBlank (start ++ rest).toList = false := by
  rw [String.toList_append, Text.isBlank, List.all_append]
  exact Bool.and_eq_false_imp.mpr fun blank => absurd blank (Bool.eq_false_iff.mp visible)

theorem wellFormed (rule : Builtin) : rule.metadata.WellFormed := by
  cases rule <;> exact ⟨isBlank_ofList rfl, by decide, by decide⟩

-- A text is taken at its first character, since some descriptions are too long to be evaluated whole.
set_option maxRecDepth 2000 in
theorem complete (rule : Builtin) (language : Language) :
    (rule.registeredRule.descriptor.texts language).Complete := by
  cases language <;> cases rule <;>
    simp only [registeredRule, Descriptor.texts, LocalizedTexts.texts, enTexts, ruTexts]
  all_goals constructor
  all_goals first
    | with_reducible exact isBlank_append (isBlank_append (isBlank_ofList rfl))
    | with_reducible exact isBlank_append (isBlank_ofList rfl)
    | exact isBlank_ofList rfl

theorem get?_catalog (rule : Builtin) (language : Language) :
    catalog.get? language rule.metadata.code = some (rule.registeredRule.descriptor.texts language) := by
  cases language <;> cases rule <;> rfl

/-- The built-in registry is built from the built-in rules and texts, so that what holds of every registry that is
built holds of it. -/
theorem build_registrations : build catalog (Named.all.map registration) = .ok registry := by
  have accepted : ∀ rule ∈ Named.all.map registration, Accepts catalog [] rule.1 := by
    rw [List.forall_mem_map]
    intro rule _
    exact ⟨rule.wellFormed, List.not_mem_nil, fun language => ⟨_, rule.get?_catalog language, rule.complete language⟩⟩
  have distinct : (Named.all.map registration).Pairwise fun earlier later => earlier.1.code ≠ later.1.code := by
    rw [List.pairwise_map]
    decide
  obtain ⟨built, made⟩ := build_isOk_iff.mpr (buildFrom_isOk_iff.mpr ⟨accepted, distinct⟩)
  have standing : List.Forall₂ (Registered catalog) (Named.all.map registration) registry.rules := by
    rw [registry, List.forall₂_map_left_iff, List.forall₂_map_right_iff, List.forall₂_same]
    exact fun rule _ => ⟨rfl, rfl, rule.get?_catalog⟩
  have unique : Relator.RightUnique (Registered catalog) :=
    fun (_ : RuleMetadata × BuiltinRule) _ _ => Registered.unique
  have same : built.rules = registry.rules := List.right_unique_forall₂' unique (build_ok made).1 standing
  rw [made]
  exact congrArg (fun rules => Except.ok (Registry.mk rules)) same

end Builtin

end BslLint
