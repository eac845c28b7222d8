import BslLint.Proofs.Json.Meaning

/-! The order of fields. Two forms are reorderings of each other when one is made of the other by exchanging neighbours
with different keys, in objects at any depth. Readers that look at the last value of each key do not see a
difference. -/

set_option autoImplicit false

namespace BslLint.JsonForm

/-- The same form with fields of different keys in another order. -/
inductive Reordered : JsonForm → JsonForm → Prop where
  | refl (form : JsonForm) : Reordered form form
  | trans {first second third : JsonForm} : Reordered first second → Reordered second third → Reordered first third
  | exchange {before after : List (Option String × JsonForm)} {first second : Option String × JsonForm} :
      first.1 ≠ second.1 → Reordered (.object (before ++ first :: second :: after))
        (.object (before ++ second :: first :: after))
  | item {before after : List JsonForm} {item other : JsonForm} : Reordered item other →
      Reordered (.array (before ++ item :: after)) (.array (before ++ other :: after))
  | field {before after : List (Option String × JsonForm)} {key : Option String} {value other : JsonForm} :
      Reordered value other →
      Reordered (.object (before ++ (key, value) :: after)) (.object (before ++ (key, other) :: after))

section

variable {Value : Type} {read : JsonForm → Option Value} {before after : List (Option String × JsonForm)}

theorem Entries.exchange {first second : Option String × JsonForm} (differ : first.1 ≠ second.1)
    {entries : List (String × Value)} (all : Entries read (before ++ first :: second :: after) entries) :
    ∃ others, Entries read (before ++ second :: first :: after) others ∧
      ∀ key, others.filter (fun entry => entry.1 = key) = entries.filter fun entry => entry.1 = key := by
  induction before generalizing entries with
  | nil =>
    obtain ⟨left, _, foundLeft, others, rfl⟩ := List.forall₂_cons_left_iff.mp all
    obtain ⟨right, tail, foundRight, rest, rfl⟩ := List.forall₂_cons_left_iff.mp others
    refine ⟨right :: left :: tail, .cons foundRight (.cons foundLeft rest), fun key => ?_⟩
    -- At most one of the two entries is kept for a key, so their order does not show.
    have apart : ¬(left.1 = key ∧ right.1 = key) := by
      rintro ⟨rfl, same⟩
      exact differ (foundLeft.1.trans (same ▸ foundRight.1.symm))
    simp only [List.filter_cons, decide_eq_true_eq]
    by_cases keyed : left.1 = key
    · have other : right.1 ≠ key := fun same => apart ⟨keyed, same⟩
      simp only [keyed, other, if_true, if_false]
    · simp only [keyed, if_false]
  | cons field before ih =>
    obtain ⟨entry, _, found, rest, rfl⟩ := List.forall₂_cons_left_iff.mp all
    obtain ⟨others, read, same⟩ := ih rest
    refine ⟨entry :: others, .cons found read, fun key => ?_⟩
    rw [List.filter_cons, List.filter_cons, same]

theorem Entries.replace {key : Option String} {value other : JsonForm} (same : read value = read other)
    {entries : List (String × Value)} (all : Entries read (before ++ (key, value) :: after) entries) :
    Entries read (before ++ (key, other) :: after) entries := by
  induction before generalizing entries with
  | nil =>
    obtain ⟨entry, _, found, rest, rfl⟩ := List.forall₂_cons_left_iff.mp all
    exact .cons ⟨found.1, same ▸ found.2⟩ rest
  | cons field before ih =>
    obtain ⟨entry, _, found, rest, rfl⟩ := List.forall₂_cons_left_iff.mp all
    exact .cons found (ih rest)

variable {held : Dictionary Value}

theorem readAs_exchange {first second : Option String × JsonForm} (differ : first.1 ≠ second.1) :
    ReadAs read (before ++ first :: second :: after) held ↔ ReadAs read (before ++ second :: first :: after) held := by
  have exchanged {first second : Option String × JsonForm} (differ : first.1 ≠ second.1)
      (all : ReadAs read (before ++ first :: second :: after) held) :
      ReadAs read (before ++ second :: first :: after) held := by
    obtain ⟨entries, all, rfl⟩ := all
    obtain ⟨others, all, same⟩ := all.exchange differ
    exact ⟨others, all, Dictionary.ofList_congr same⟩
  exact ⟨exchanged differ, exchanged differ.symm⟩

theorem readAs_replace {key : Option String} {value other : JsonForm} (same : read value = read other) :
    ReadAs read (before ++ (key, value) :: after) held ↔ ReadAs read (before ++ (key, other) :: after) held := by
  constructor
  · rintro ⟨entries, all, made⟩
    exact ⟨entries, all.replace same, made⟩
  · rintro ⟨entries, all, made⟩
    exact ⟨entries, all.replace same.symm, made⟩

end

theorem itemValues?_replace {bound : Nat} {before after : List JsonForm} {item other : JsonForm}
    (same : value? bound item = value? bound other) :
    itemValues? bound (before ++ item :: after) = itemValues? bound (before ++ other :: after) := by
  induction before with
  | nil => rw [List.nil_append, List.nil_append, itemValues?, itemValues?, same]
  | cons first before ih => rw [List.cons_append, List.cons_append, itemValues?, itemValues?, ih]

/-- The value does not depend on the order of fields with different keys. -/
theorem value?_of_reordered {form other : JsonForm} (reordered : Reordered form other) (bound : Nat) :
    value? bound form = value? bound other := by
  induction reordered generalizing bound with
  | refl => rfl
  | trans _ _ first second => exact (first bound).trans (second bound)
  | exchange differ =>
    cases bound with
    | zero => rw [value?, value?]
    | succ bound =>
      refine Option.ext fun value => ?_
      rw [value?_object_eq_some_iff, value?_object_eq_some_iff]
      exact exists_congr fun held => and_congr_left' (readAs_exchange differ)
  | item _ ih =>
    cases bound with
    | zero => rw [value?, value?]
    | succ bound => rw [value?, value?, itemValues?_replace (ih bound)]
  | field _ ih =>
    cases bound with
    | zero => rw [value?, value?]
    | succ bound =>
      refine Option.ext fun value => ?_
      rw [value?_object_eq_some_iff, value?_object_eq_some_iff]
      exact exists_congr fun held => and_congr_left' (readAs_replace (ih bound))

end BslLint.JsonForm
