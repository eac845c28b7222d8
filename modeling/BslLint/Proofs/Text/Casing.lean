import BslLint.Text.Split
import Mathlib.Data.List.Forall2

/-! Words in any case of their ASCII letters. -/

set_option autoImplicit false

namespace BslLint.Text

theorem toNat_toLower (char : Char) :
    char.toLower.toNat = if 65 ≤ char.toNat ∧ char.toNat ≤ 90 then char.toNat + 32 else char.toNat := by
  have bounds : ('A'.val ≤ char.val ∧ char.val ≤ 'Z'.val) ↔ 65 ≤ char.toNat ∧ char.toNat ≤ 90 := by
    simp only [UInt32.le_iff_toNat_le]
    exact Iff.rfl
  unfold Char.toLower
  simp only [ge_iff_le, bounds]
  split
  · have shifted : (char.val + 32).toNat = (char.toNat + 32) % 2 ^ 32 := UInt32.toNat_add _ _
    exact shifted.trans (by omega)
  · rfl

theorem toNat_toUpper (char : Char) :
    char.toUpper.toNat = if 97 ≤ char.toNat ∧ char.toNat ≤ 122 then char.toNat - 32 else char.toNat := by
  have bounds : ('a'.val ≤ char.val ∧ char.val ≤ 'z'.val) ↔ 97 ≤ char.toNat ∧ char.toNat ≤ 122 := by
    simp only [UInt32.le_iff_toNat_le]
    exact Iff.rfl
  unfold Char.toUpper
  simp only [bounds]
  split
  · -- The letter goes down by 32, which in a word is to go up by the rest.
    have shifted : (char.val + 0xFFFFFFE0).toNat = (char.toNat + 0xFFFFFFE0) % 0x100000000 := UInt32.toNat_add _ _
    exact shifted.trans (by omega)
  · rfl

theorem toLower_eq_iff {char letter : Char} :
    char.toLower = letter.toLower ↔ char = letter.toLower ∨ char = letter.toUpper := by
  simp only [← Char.toNat_inj, toNat_toLower, toNat_toUpper]
  split_ifs <;> omega

def InAnyCase (text word : List Char) : Prop :=
  List.Forall₂ (fun char letter => char = letter.toLower ∨ char = letter.toUpper) text word

theorem eqIgnoringAsciiCase_iff {text word : List Char} : eqIgnoringAsciiCase text word = true ↔ InAnyCase text word := by
  rw [eqIgnoringAsciiCase, beq_iff_eq, ← List.forall₂_eq_eq_eq, List.forall₂_map_left_iff, List.forall₂_map_right_iff,
    InAnyCase]
  simp only [toLower_eq_iff]

theorem InAnyCase.head? {text word : List Char} {letter : Char} (written : InAnyCase text (letter :: word)) :
    ∃ first rest, text = first :: rest ∧ (first = letter.toLower ∨ first = letter.toUpper) := by
  obtain ⟨first, rest, starts, _, whole⟩ := List.forall₂_cons_right_iff.mp written
  exact ⟨first, rest, whole, starts⟩

/-- What holds of both cases of all letters of a word holds of the characters that write it. -/
theorem InAnyCase.all {holds : Char → Bool} {text word : List Char} (written : InAnyCase text word)
    (both : (word.all fun letter => holds letter.toLower && holds letter.toUpper) = true) : text.all holds = true := by
  induction written with
  | nil => rfl
  | cons same _ ih =>
    rw [List.all_cons, Bool.and_eq_true, Bool.and_eq_true] at both
    rw [List.all_cons, Bool.and_eq_true]
    refine ⟨?_, ih both.2⟩
    rcases same with rfl | rfl
    · exact both.1.1
    · exact both.1.2

end BslLint.Text
