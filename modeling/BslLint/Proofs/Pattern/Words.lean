import BslLint.Proofs.Pattern.Matching
import BslLint.Proofs.Text.Folding
import Mathlib.Data.List.Induction

/-! What patterns for runs and for words in any case match, as texts. -/

set_option autoImplicit false

namespace BslLint

namespace Pattern

variable {text : List Char} {set : CharSet} {start stop : Nat}

theorem append_prefix_drop_iff {first second : List Char} : first ++ second <+: text.drop start ↔
    first <+: text.drop start ∧ second <+: text.drop (start + first.length) := by
  constructor
  · rintro ⟨rest, whole⟩
    refine ⟨⟨second ++ rest, by rw [← whole, List.append_assoc]⟩, ⟨rest, ?_⟩⟩
    rw [← List.drop_drop, ← whole, List.append_assoc, List.drop_left]
  · rintro ⟨⟨others, whole⟩, ⟨rest, further⟩⟩
    rw [← List.drop_drop, ← whole, List.drop_left] at further
    exact ⟨rest, by rw [← whole, ← further, List.append_assoc]⟩

theorem matches_charIn_iff : Matches text (.charIn set) start stop ↔
    ∃ char, set.contains char = true ∧ [char] <+: text.drop start ∧ stop = start + 1 := by
  have there (char : Char) : text[start]? = some char ↔ [char] <+: text.drop start := by
    rw [← List.head?_drop, List.head?_eq_some_iff]
    simp only [List.IsPrefix, List.singleton_append, eq_comm]
  simp only [Matches, there]
  constructor
  · rintro ⟨ends, char, here, inside⟩
    exact ⟨char, inside, here, ends⟩
  · rintro ⟨char, inside, here, ends⟩
    exact ⟨ends, char, here, inside⟩

theorem times_charIn_iff {count : Nat} : Times (Matches text (.charIn set)) count start stop ↔
    ∃ run, run.length = count ∧ (∀ char ∈ run, set.contains char = true) ∧ run <+: text.drop start ∧
      stop = start + run.length := by
  induction count generalizing stop with
  | zero =>
    rw [Times.zero_iff]
    constructor
    · rintro rfl
      exact ⟨[], rfl, List.forall_mem_nil _, List.nil_prefix, rfl⟩
    · rintro ⟨run, none, _, _, rfl⟩
      rw [none, Nat.add_zero]
  | succ count ih =>
    rw [Times.succ_iff]
    constructor
    · rintro ⟨middle, steps, last⟩
      obtain ⟨run, rfl, all, here, rfl⟩ := ih.mp steps
      obtain ⟨char, inside, next, rfl⟩ := matches_charIn_iff.mp last
      refine ⟨run ++ [char], by simp, ?_, append_prefix_drop_iff.mpr ⟨here, next⟩, by simp [Nat.add_assoc]⟩
      exact List.forall_mem_append.mpr ⟨all, List.forall_mem_singleton.mpr inside⟩
    · rintro ⟨run, length, all, here, rfl⟩
      obtain rfl | ⟨run, char, rfl⟩ := List.eq_nil_or_concat run
      · cases length
      · rw [List.concat_eq_append] at *
        obtain ⟨all, inside⟩ := List.forall_mem_append.mp all
        obtain ⟨here, next⟩ := append_prefix_drop_iff.mp here
        rw [List.length_append, List.length_singleton, Nat.add_right_cancel_iff] at length
        refine ⟨start + run.length, ih.mpr ⟨run, length, all, here, rfl⟩, ?_⟩
        refine matches_charIn_iff.mpr ⟨char, inside char List.mem_cons_self, next, ?_⟩
        rw [List.length_append, List.length_singleton, Nat.add_assoc]

/-- A set as often as can be matches any run of it that is long enough. -/
theorem matches_repeated_iff {least : Nat} {greedy : Bool} :
    Matches text (.repeated (.charIn set) least none greedy) start stop ↔ ∃ run, least ≤ run.length ∧
      (∀ char ∈ run, set.contains char = true) ∧ run <+: text.drop start ∧ stop = start + run.length := by
  constructor
  · rintro ⟨count, enough, _, steps⟩
    obtain ⟨run, rfl, matched⟩ := times_charIn_iff.mp steps
    exact ⟨run, enough, matched⟩
  · rintro ⟨run, enough, matched⟩
    exact ⟨run.length, enough, nofun, times_charIn_iff.mpr ⟨run, rfl, matched⟩⟩

def wordOf : List Char → Pattern
  | [] => .empty
  | first :: rest =>
    rest.foldl (fun whole letter => .sequence whole (.charIn (.among (Text.caseVariants letter))))
      (.charIn (.among (Text.caseVariants first)))

theorem matches_wordOf_append {letters : List Char} {letter : Char} :
    Matches text (wordOf (letters ++ [letter])) start stop ↔ ∃ middle, Matches text (wordOf letters) start middle ∧
      Matches text (.charIn (.among (Text.caseVariants letter))) middle stop := by
  cases letters with
  | nil =>
    constructor
    · exact fun matched => ⟨start, rfl, matched⟩
    · rintro ⟨_, rfl, matched⟩
      exact matched
  | cons first rest =>
    rw [wordOf, List.cons_append, wordOf, List.foldl_append]
    exact Iff.rfl

theorem matches_wordOf_iff {letters : List Char} :
    Matches text (wordOf letters) start stop ↔ ∃ written, written.map Text.fold = letters.map Text.fold ∧
      written <+: text.drop start ∧ stop = start + written.length := by
  induction letters using List.reverseRecOn generalizing stop with
  | nil =>
    constructor
    · rintro rfl
      exact ⟨[], rfl, List.nil_prefix, rfl⟩
    · rintro ⟨written, none, _, rfl⟩
      cases List.map_eq_nil_iff.mp none
      rfl
  | append_singleton letters letter ih =>
    rw [matches_wordOf_append]
    simp only [ih, matches_charIn_iff]
    constructor
    · rintro ⟨_, ⟨written, same, here, rfl⟩, char, inside, next, rfl⟩
      refine ⟨written ++ [char], ?_, append_prefix_drop_iff.mpr ⟨here, next⟩, by simp [Nat.add_assoc]⟩
      rw [List.map_append, List.map_append, same, List.map_singleton, List.map_singleton,
        Text.mem_caseVariants_iff.mp (List.contains_iff_mem.mp inside)]
    · rintro ⟨written, same, here, rfl⟩
      rw [List.map_append, List.map_singleton] at same
      obtain ⟨first, last, rfl, agrees, ends⟩ := List.map_eq_append_iff.mp same
      obtain ⟨char, rfl, folds⟩ := List.map_eq_singleton_iff.mp ends
      obtain ⟨here, next⟩ := append_prefix_drop_iff.mp here
      refine ⟨_, ⟨first, agrees, here, rfl⟩, char, ?_, next, by simp [Nat.add_assoc]⟩
      exact List.contains_iff_mem.mpr (Text.mem_caseVariants_iff.mpr folds)

end Pattern

end BslLint
