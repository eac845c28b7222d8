import BslLint.Proofs.Items
import BslLint.Text.Split
import Mathlib.Data.List.Basic

/-! What the pieces of a text are. Together they have its characters, and each of them is a longest part of it without a
separator. -/

set_option autoImplicit false

namespace BslLint.Text

theorem splitOn_append (separator : Char) (before after : List Char) :
    splitOn separator (before ++ separator :: after) = splitOn separator before ++ splitOn separator after := by
  induction before with
  | nil => simp [splitOn]
  | cons char before ih =>
    by_cases same : char = separator
    · simp [splitOn, same, ih]
    · simp only [List.cons_append, splitOn, same, if_false, ih]
      cases pieces : splitOn separator before with
      | nil => exact absurd pieces (splitOn_ne_nil separator before)
      | cons piece pieces => rfl

theorem splitOn_of_not_mem {separator : Char} {text : List Char} (absent : separator ∉ text) :
    splitOn separator text = [text] := by
  induction text with
  | nil => rfl
  | cons char text ih =>
    rw [List.mem_cons, not_or] at absent
    rw [splitOn, if_neg (Ne.symm absent.1), ih absent.2]

/-- A text falls into pieces in only one way: put together with separators they give the text, and they have none. -/
theorem splitOn_eq_iff {separator : Char} {text : List Char} {pieces : List (List Char)} :
    splitOn separator text = pieces ↔
      pieces ≠ [] ∧ text = [separator].intercalate pieces ∧ ∀ piece ∈ pieces, separator ∉ piece := by
  constructor
  · rintro rfl
    refine ⟨splitOn_ne_nil separator text, ?_⟩
    induction text using separated_induction separator with
    | single text absent => simp [splitOn_of_not_mem absent, absent]
    | further first rest absent ih =>
      obtain ⟨joined, free⟩ := ih
      rw [splitOn_append, splitOn_of_not_mem absent, List.singleton_append]
      refine ⟨?_, List.forall_mem_cons.mpr ⟨absent, free⟩⟩
      rw [List.intercalate_cons_of_ne_nil (splitOn_ne_nil separator rest), ← joined]
      simp
  · rintro ⟨some, rfl, free⟩
    induction pieces with
    | nil => exact absurd rfl some
    | cons piece pieces ih =>
      obtain ⟨absent, free⟩ := List.forall_mem_cons.mp free
      cases pieces with
      | nil => simp [splitOn_of_not_mem absent]
      | cons next pieces =>
        rw [List.intercalate_cons_cons, List.append_assoc, List.singleton_append, splitOn_append,
          splitOn_of_not_mem absent, ih (List.cons_ne_nil _ _) free, List.singleton_append]

theorem exists_mem_splitOn_iff {separator char : Char} (other : char ≠ separator) (text : List Char) :
    (∃ piece ∈ splitOn separator text, char ∈ piece) ↔ char ∈ text := by
  induction text with
  | nil => simp [splitOn]
  | cons first text ih =>
    by_cases same : first = separator
    · subst same
      simp [splitOn, ih, other]
    · cases pieces : splitOn separator text with
      | nil => exact absurd pieces (splitOn_ne_nil separator text)
      | cons piece pieces =>
        rw [pieces] at ih
        simp [splitOn, same, pieces, ← ih, or_assoc]

/-- A piece is a part without a separator in it and with one next to it, unless the text starts or ends there. -/
theorem mem_splitOn_iff {separator : Char} {text piece : List Char} : piece ∈ splitOn separator text ↔
    ∃ before after, text = before ++ (piece ++ after) ∧ separator ∉ piece ∧
      (∀ char ∈ before.getLast?, char = separator) ∧ ∀ char ∈ after.head?, char = separator := by
  constructor
  · intro mem
    induction text using separated_induction separator with
    | single text absent =>
      rw [splitOn_of_not_mem absent, List.mem_singleton] at mem
      subst mem
      exact ⟨[], [], by simp, absent, nofun, nofun⟩
    | further first rest absent ih =>
      rw [splitOn_append, splitOn_of_not_mem absent, List.singleton_append, List.mem_cons] at mem
      rcases mem with rfl | mem
      · exact ⟨[], separator :: rest, rfl, absent, nofun, by simp⟩
      · obtain ⟨before, after, rfl, free, starts, ends⟩ := ih mem
        exact ⟨first ++ separator :: before, after, by simp, free, getLast?_append_separator starts first, ends⟩
  · rintro ⟨before, after, rfl, free, starts, ends⟩
    have leads : piece ∈ splitOn separator (piece ++ after) := by
      cases after with
      | nil => simp [splitOn_of_not_mem free]
      | cons char rest =>
        rw [ends char rfl, splitOn_append, splitOn_of_not_mem free]
        exact List.mem_cons_self
    rcases last_is_separator_iff.mp starts with rfl | ⟨earlier, rfl⟩
    · exact leads
    · rw [List.append_assoc, List.singleton_append, splitOn_append]
      exact List.mem_append_right _ leads

end BslLint.Text
