import BslLint.Json.Reader
import BslLint.Proofs.Dictionary

/-! What forms mean. A form has a value when its numbers and texts have one and it is not nested too deep. Objects then
give each key the value that stands last for it. -/

set_option autoImplicit false

namespace BslLint.JsonForm

mutual

/-- How many arrays and objects are open at once. -/
def depth : JsonForm → Nat
  | .array items => itemsDepth items + 1
  | .object fields => fieldsDepth fields + 1
  | .null | .bool _ | .number _ | .string _ => 0

def itemsDepth : List JsonForm → Nat
  | [] => 0
  | item :: rest => max (depth item) (itemsDepth rest)

def fieldsDepth : List (Option String × JsonForm) → Nat
  | [] => 0
  | (_, value) :: rest => max (depth value) (fieldsDepth rest)

end

mutual

/-- All numbers are in range, and all texts are Unicode texts. -/
def Denotes : JsonForm → Prop
  | .null | .bool _ => True
  | .number value => value ≠ none
  | .string value => value ≠ none
  | .array items => ItemsDenote items
  | .object fields => FieldsDenote fields

def ItemsDenote : List JsonForm → Prop
  | [] => True
  | item :: rest => Denotes item ∧ ItemsDenote rest

def FieldsDenote : List (Option String × JsonForm) → Prop
  | [] => True
  | (key, value) :: rest => key ≠ none ∧ Denotes value ∧ FieldsDenote rest

end

theorem itemsDepth_le_iff {items : List JsonForm} {bound : Nat} :
    itemsDepth items ≤ bound ↔ ∀ item ∈ items, item.depth ≤ bound := by
  induction items with
  | nil => simp [itemsDepth]
  | cons item rest ih => simp [itemsDepth, ih]

theorem fieldsDepth_le_iff {fields : List (Option String × JsonForm)} {bound : Nat} :
    fieldsDepth fields ≤ bound ↔ ∀ field ∈ fields, field.2.depth ≤ bound := by
  induction fields with
  | nil => simp [fieldsDepth]
  | cons field rest ih =>
    obtain ⟨key, value⟩ := field
    simp [fieldsDepth, ih]

theorem itemsDenote_iff {items : List JsonForm} : ItemsDenote items ↔ ∀ item ∈ items, item.Denotes := by
  induction items with
  | nil => simp [ItemsDenote]
  | cons item rest ih => simp [ItemsDenote, ih]

theorem fieldsDenote_iff {fields : List (Option String × JsonForm)} :
    FieldsDenote fields ↔ ∀ field ∈ fields, field.1 ≠ none ∧ field.2.Denotes := by
  induction fields with
  | nil => simp [FieldsDenote]
  | cons field rest ih =>
    obtain ⟨key, value⟩ := field
    simp [FieldsDenote, ih, and_assoc]

mutual

theorem isSome_value?_iff (bound : Nat) (form : JsonForm) :
    (value? bound form).isSome = true ↔ form.Denotes ∧ form.depth ≤ bound := by
  match form, bound with
  | .null, _ => simp [value?, Denotes, depth]
  | .bool _, _ => simp [value?, Denotes, depth]
  | .number value, _ => simp [value?, Denotes, depth, Option.isSome_iff_ne_none]
  | .string value, _ => simp [value?, Denotes, depth, Option.isSome_iff_ne_none]
  | .array items, 0 => simp [value?, depth]
  | .array items, bound + 1 => simp [value?, Denotes, depth, isSome_itemValues?_iff]
  | .object fields, 0 => simp [value?, depth]
  | .object fields, bound + 1 => simp [value?, Denotes, depth, isSome_fieldValues?_iff]

theorem isSome_itemValues?_iff (bound : Nat) (items : List JsonForm) :
    (itemValues? bound items).isSome = true ↔ ItemsDenote items ∧ itemsDepth items ≤ bound := by
  match items with
  | [] => simp [itemValues?, ItemsDenote, itemsDepth]
  | item :: rest =>
    have head := isSome_value?_iff bound item
    have tail := isSome_itemValues?_iff bound rest
    rw [itemValues?, ItemsDenote, itemsDepth, Nat.max_le, and_and_and_comm, ← head, ← tail]
    cases value? bound item <;> cases itemValues? bound rest <;> simp

theorem isSome_fieldValues?_iff (bound : Nat) (fields : List (Option String × JsonForm)) :
    (fieldValues? bound fields).isSome = true ↔ FieldsDenote fields ∧ fieldsDepth fields ≤ bound := by
  match fields with
  | [] => simp [fieldValues?, FieldsDenote, fieldsDepth]
  | (key, value) :: rest =>
    have head := isSome_value?_iff bound value
    have tail := isSome_fieldValues?_iff bound rest
    rw [fieldValues?, FieldsDenote, fieldsDepth, Nat.max_le, and_assoc, and_and_and_comm, ← head, ← tail]
    cases key <;> cases value? bound value <;> cases fieldValues? bound rest <;> simp

end

def Entries {Value : Type} (read : JsonForm → Option Value) (fields : List (Option String × JsonForm))
    (entries : List (String × Value)) : Prop :=
  List.Forall₂ (fun field entry => field.1 = some entry.1 ∧ read field.2 = some entry.2) fields entries

def ReadAs {Value : Type} (read : JsonForm → Option Value) (fields : List (Option String × JsonForm))
    (held : Dictionary Value) : Prop :=
  ∃ entries, Entries read fields entries ∧ Dictionary.ofList entries = held

theorem fieldValues?_eq_some_iff {bound : Nat} {fields : List (Option String × JsonForm)}
    {pairs : List (String × Json)} : fieldValues? bound fields = some pairs ↔ Entries (value? bound) fields pairs := by
  induction fields generalizing pairs with
  | nil => simp [fieldValues?, Entries, eq_comm]
  | cons field rest ih =>
    obtain ⟨key, value⟩ := field
    rw [Entries, List.forall₂_cons_left_iff]
    simp only [fieldValues?, bind, Option.bind_eq_some_iff, pure, Option.some.injEq, ih]
    constructor
    · rintro ⟨name, rfl, held, found, others, read, rfl⟩
      exact ⟨(name, held), others, ⟨rfl, found⟩, read, rfl⟩
    · rintro ⟨⟨name, held⟩, others, ⟨rfl, found⟩, read, rfl⟩
      exact ⟨name, rfl, held, found, others, read, rfl⟩

theorem value?_object_eq_some_iff {bound : Nat} {fields : List (Option String × JsonForm)} {value : Json} :
    value? (bound + 1) (.object fields) = some value ↔
      ∃ held, ReadAs (value? bound) fields held ∧ value = .object held := by
  simp only [value?, Option.map_eq_some_iff, fieldValues?_eq_some_iff, ReadAs]
  constructor
  · rintro ⟨entries, all, rfl⟩
    exact ⟨_, ⟨entries, all, rfl⟩, rfl⟩
  · rintro ⟨_, ⟨entries, all, rfl⟩, rfl⟩
    exact ⟨entries, all, rfl⟩

/-- The value that a form stands for. In an object each key has the value that is given for it last. -/
inductive Means : JsonForm → Json → Prop where
  | null : Means .null .null
  | bool {value : Bool} : Means (.bool value) (.bool value)
  | number {value : JsonNumber} : Means (.number (some value)) (.number value)
  | string {value : String} : Means (.string (some value)) (.string value)
  | array {items : List JsonForm} {values : List Json} : List.Forall₂ Means items values →
      Means (.array items) (.array values)
  | object {fields : List (Option String × JsonForm)} {entries : Dictionary Json} : entries.Ascending →
      (∀ key : String, Option.Rel Means (lastGiven? fields (some key)) (Dictionary.get? entries key)) →
      Means (.object fields) (.object entries)

mutual

theorem means_of_value? {bound : Nat} {form : JsonForm} {value : Json} (valued : value? bound form = some value) :
    Means form value := by
  match form, bound with
  | .null, _ =>
    rw [value?] at valued
    cases valued
    exact .null
  | .bool held, _ =>
    rw [value?] at valued
    cases valued
    exact .bool
  | .number held, _ =>
    rw [value?, Option.map_eq_some_iff] at valued
    obtain ⟨number, rfl, rfl⟩ := valued
    exact .number
  | .string held, _ =>
    rw [value?, Option.map_eq_some_iff] at valued
    obtain ⟨text, rfl, rfl⟩ := valued
    exact .string
  | .array items, 0 =>
    rw [value?] at valued
    cases valued
  | .array items, bound + 1 =>
    rw [value?, Option.map_eq_some_iff] at valued
    obtain ⟨values, found, rfl⟩ := valued
    exact .array (means_of_itemValues? found)
  | .object fields, 0 =>
    rw [value?] at valued
    cases valued
  | .object fields, bound + 1 =>
    rw [value?, Option.map_eq_some_iff] at valued
    obtain ⟨pairs, found, rfl⟩ := valued
    refine .object (Dictionary.ascending_ofList pairs) fun key => ?_
    rw [Dictionary.get?_ofList]
    exact lastGiven?_rel (means_of_fieldValues? found) key

theorem means_of_itemValues? {bound : Nat} {items : List JsonForm} {values : List Json}
    (valued : itemValues? bound items = some values) : List.Forall₂ Means items values := by
  match items with
  | [] =>
    cases valued
    exact .nil
  | item :: rest =>
    simp only [itemValues?, bind, Option.bind_eq_some_iff, pure, Option.some.injEq] at valued
    obtain ⟨value, head, values, tail, rfl⟩ := valued
    exact .cons (means_of_value? head) (means_of_itemValues? tail)

theorem means_of_fieldValues? {bound : Nat} {fields : List (Option String × JsonForm)} {pairs : List (String × Json)}
    (valued : fieldValues? bound fields = some pairs) :
    List.Forall₂ (fun field pair => field.1 = some pair.1 ∧ Means field.2 pair.2) fields pairs := by
  match fields with
  | [] =>
    cases valued
    exact .nil
  | (name, form) :: rest =>
    simp only [fieldValues?, bind, Option.bind_eq_some_iff, pure, Option.some.injEq] at valued
    obtain ⟨key, rfl, value, head, pairs, tail, rfl⟩ := valued
    exact .cons ⟨rfl, means_of_value? head⟩ (means_of_fieldValues? tail)

end

end BslLint.JsonForm
