import Mathlib.Data.List.Forall2

/-! Lists that are read item by item, and lists that a separator divides. -/

set_option autoImplicit false

namespace BslLint

theorem mapM_eq_some_iff {Part Value : Type} {read : Part → Option Value} {parts : List Part} {values : List Value} :
    parts.mapM read = some values ↔ List.Forall₂ (fun part value => read part = some value) parts values := by
  induction parts generalizing values with
  | nil => simp [eq_comm]
  | cons part rest ih =>
    rw [List.mapM_cons, List.forall₂_cons_left_iff]
    simp only [bind, Option.bind_eq_some_iff, pure, Option.some.injEq, ih]
    constructor
    · rintro ⟨value, found, others, read, rfl⟩
      exact ⟨value, others, found, read, rfl⟩
    · rintro ⟨value, others, found, read, rfl⟩
      exact ⟨value, found, others, read, rfl⟩

theorem exists_map_eq_of_forall {Part Value : Type} {form : Value → Part} {property : Value → Prop} {parts : List Part}
    (all : ∀ part ∈ parts, ∃ value, form value = part ∧ property value) :
    ∃ values : List Value, values.map form = parts ∧ ∀ value ∈ values, property value := by
  induction parts with
  | nil => exact ⟨[], rfl, by simp⟩
  | cons part rest ih =>
    obtain ⟨first, others⟩ := List.forall_mem_cons.mp all
    obtain ⟨value, rfl, holds⟩ := first
    obtain ⟨values, rfl, allHold⟩ := ih others
    exact ⟨value :: values, rfl, List.forall_mem_cons.mpr ⟨holds, allHold⟩⟩

theorem exists_mapM_eq_some_iff {Part Value : Type} {read : Part → Option Value} {parts : List Part} :
    (∃ values, parts.mapM read = some values) ↔ ∀ part ∈ parts, ∃ value, read part = some value := by
  induction parts with
  | nil => simp
  | cons part rest ih =>
    rw [List.forall_mem_cons, ← ih, List.mapM_cons]
    simp only [bind, Option.bind_eq_some_iff, pure, Option.some.injEq]
    constructor
    · rintro ⟨_, value, first, values, all, rfl⟩
      exact ⟨⟨value, first⟩, ⟨values, all⟩⟩
    · rintro ⟨⟨value, first⟩, ⟨values, all⟩⟩
      exact ⟨_, value, first, values, all, rfl⟩

theorem mem_iff_of_mapM_eq_some {Part Value : Type} {read : Part → Option Value} {parts : List Part}
    {values : List Value} (all : parts.mapM read = some values) {value : Value} :
    value ∈ values ↔ ∃ part ∈ parts, read part = some value := by
  rw [mapM_eq_some_iff] at all
  induction all with
  | nil => simp
  | cons first _ ih => rw [List.mem_cons, ih, List.exists_mem_cons_iff, first, Option.some.injEq, eq_comm]

-- What is read of a list is what is read of its items.
theorem mem_iff_of_mapM_eq_ok {Item Value Error : Type} {read : Item → Except Error Value} {items : List Item}
    {values : List Value} (all : items.mapM read = .ok values) {value : Value} :
    value ∈ values ↔ ∃ item ∈ items, read item = .ok value := by
  induction items generalizing values with
  | nil =>
    cases all
    simp
  | cons item items ih =>
    rw [List.mapM_cons] at all
    cases first : read item with
    | error error =>
      rw [first] at all
      cases all
    | ok own =>
      rw [first] at all
      cases rest : items.mapM read with
      | error error =>
        rw [rest] at all
        cases all
      | ok others =>
        rw [rest] at all
        cases all
        rw [List.mem_cons, ih rest, List.exists_mem_cons_iff, first, Except.ok.injEq, eq_comm]

section

variable {Item : Type}

/-- What holds of lists without the separator, and of a list in front of whose rest another such list and a separator
are put, holds of all lists. -/
theorem separated_induction (separator : Item) {motive : List Item → Prop} (single : ∀ items, separator ∉ items → motive items)
    (further : ∀ first rest, separator ∉ first → motive rest → motive (first ++ separator :: rest)) (items : List Item) :
    motive items := by
  -- The rest behind the first separator is shorter, but it is no tail that the constructors give.
  induction length : items.length using Nat.strongRecOn generalizing items with
  | ind count ih =>
    by_cases present : separator ∈ items
    · obtain ⟨first, rest, rfl, absent⟩ := List.eq_append_cons_of_mem present
      have shorter : rest.length < count := by
        rw [← length, List.length_append, List.length_cons]
        omega
      exact further first rest absent (ih _ shorter rest rfl)
    · exact single items present

theorem separated_inj {separator : Item} {first other rest more : List Item} (absent : separator ∉ first)
    (free : separator ∉ other) (same : first ++ separator :: rest = other ++ separator :: more) :
    first = other ∧ rest = more := by
  rcases List.append_eq_append_iff.mp same with ⟨between, rfl, shape⟩ | ⟨between, rfl, shape⟩
  · cases between with
    | nil => exact ⟨(List.append_nil first).symm, (List.cons.inj shape).2⟩
    | cons item between =>
      obtain rfl := (List.cons.inj shape).1
      exact absurd (List.mem_append_right _ List.mem_cons_self) free
  · cases between with
    | nil => exact ⟨List.append_nil other, (List.cons.inj shape).2.symm⟩
    | cons item between =>
      obtain rfl := (List.cons.inj shape).1
      exact absurd (List.mem_append_right _ List.mem_cons_self) absent

theorem last_is_separator_iff {separator : Item} {before : List Item} :
    (∀ item ∈ before.getLast?, item = separator) ↔ before = [] ∨ ∃ earlier, before = earlier ++ [separator] := by
  rcases List.eq_nil_or_concat before with rfl | ⟨earlier, item, rfl⟩
  · simp
  · simp

/-- Behind a separator, a list that is empty or ends with one still does. -/
theorem getLast?_append_separator {separator : Item} {before : List Item} (ends : ∀ item ∈ before.getLast?, item = separator)
    (first : List Item) : ∀ item ∈ (first ++ separator :: before).getLast?, item = separator := by
  rw [last_is_separator_iff]
  rcases last_is_separator_iff.mp ends with rfl | ⟨earlier, rfl⟩
  · exact .inr ⟨first, rfl⟩
  · exact .inr ⟨first ++ separator :: earlier, by simp⟩

end

end BslLint
