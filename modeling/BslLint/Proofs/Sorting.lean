import Mathlib.Data.List.Basic

/-! Stable sorting. It makes no difference whether items are left out before or after it. A sorted list is
determined by the order of its ties, and sorting keeps that order, so that parts may be sorted on their own before
the whole is. -/

set_option autoImplicit false

namespace BslLint

variable {Item : Type}

def tied (le : Item → Item → Bool) (left right : Item) : Bool :=
  le left right && le right left

section

variable {le : Item → Item → Bool}
  (trans : ∀ first second third, le first second = true → le second third = true → le first third = true)
  (total : ∀ left right, (le left right || le right left) = true)

include trans total

theorem le_of_mergeSort_eq {items before after : List Item} {item : Item}
    (sorted : items.mergeSort le = before ++ item :: after) : ∀ other ∈ after, le item other = true := by
  have ordered := List.pairwise_mergeSort trans total items
  rw [sorted] at ordered
  intro other member
  exact (List.pairwise_cons.mp (List.pairwise_append.mp ordered).2.1).1 other member

-- An item is sorted in behind exactly what is smaller than it.
theorem mergeSort_cons_eq (item : Item) (items : List Item) :
    (item :: items).mergeSort le = (items.mergeSort le).filter (fun other => !le item other) ++
      item :: (items.mergeSort le).filter (le item) := by
  obtain ⟨before, after, sorted, rest, smaller⟩ := List.mergeSort_cons trans total item items
  have greater := le_of_mergeSort_eq trans total sorted
  rw [sorted, rest, List.filter_append, List.filter_append, List.filter_eq_self.mpr smaller,
    List.filter_eq_nil_iff.mpr (by simpa using greater), List.filter_eq_nil_iff.mpr (by simpa using smaller),
    List.filter_eq_self.mpr greater, List.append_nil, List.nil_append]

/-- What is sorted from some of the items stands in the same order in what is sorted from all of them. -/
theorem mergeSort_sublist {some all : List Item} (among : some.Sublist all) :
    (some.mergeSort le).Sublist (all.mergeSort le) := by
  induction among with
  | slnil => exact .refl _
  | @cons some all item _ ih =>
    obtain ⟨before, after, sorted, rest, _⟩ := List.mergeSort_cons trans total item all
    rw [rest] at ih
    rw [sorted]
    exact ih.trans ((List.sublist_cons_self item after).append_left before)
  | cons_cons item _ ih =>
    rw [mergeSort_cons_eq trans total, mergeSort_cons_eq trans total]
    exact (ih.filter _).append ((ih.filter _).cons_cons item)

theorem filter_mergeSort (keep : Item → Bool) (items : List Item) :
    (items.mergeSort le).filter keep = (items.filter keep).mergeSort le := by
  induction items with
  | nil => simp
  | cons item rest ih =>
    cases kept : keep item with
    | false =>
      obtain ⟨before, after, sorted, sortedRest, _⟩ := List.mergeSort_cons trans total item rest
      rw [List.filter_cons_of_neg (by simp [kept]), ← ih, sorted, sortedRest, List.filter_append,
        List.filter_append, List.filter_cons_of_neg (by simp [kept])]
    | true =>
      rw [List.filter_cons_of_pos kept, mergeSort_cons_eq trans total, mergeSort_cons_eq trans total, ← ih,
        List.filter_append, List.filter_cons_of_pos kept, List.filter_comm keep, List.filter_comm keep]

omit total in
theorem le_of_tied_of_tied {item left right : Item} (first : tied le item left = true)
    (second : tied le item right = true) : le left right = true := by
  rw [tied, Bool.and_eq_true] at first second
  exact trans left item right first.2 second.1

theorem filter_tied_mergeSort (item : Item) (items : List Item) :
    (items.mergeSort le).filter (tied le item) = items.filter (tied le item) := by
  rw [filter_mergeSort trans total]
  refine List.mergeSort_of_pairwise (List.pairwise_of_forall_mem_list ?_)
  intro left memLeft right memRight
  exact le_of_tied_of_tied trans (List.mem_filter.mp memLeft).2 (List.mem_filter.mp memRight).2

omit trans total in
/-- Sorted lists in which all ties stand in the same order are the same. -/
theorem eq_of_filter_tied_eq (refl : ∀ item, le item item = true) {left right : List Item}
    (sortedLeft : left.Pairwise fun first second => le first second = true)
    (sortedRight : right.Pairwise fun first second => le first second = true)
    (same : ∀ item, left.filter (tied le item) = right.filter (tied le item)) : left = right := by
  have self (item : Item) : tied le item item = true := by rw [tied, refl, Bool.and_self]
  induction left generalizing right with
  | nil =>
    cases right with
    | nil => rfl
    | cons other rest =>
      have absent := same other
      rw [List.filter_cons_of_pos (self other)] at absent
      cases absent
  | cons item left ih =>
    cases right with
    | nil =>
      have absent := same item
      rw [List.filter_cons_of_pos (self item)] at absent
      cases absent
    | cons other right =>
      -- Each of the two heads also stands in the other list, so they are tied.
      have mem : item ∈ other :: right := by
        have known : item ∈ (item :: left).filter (tied le item) := List.mem_filter.mpr ⟨List.mem_cons_self, self item⟩
        rw [same item] at known
        exact List.mem_of_mem_filter known
      have memOther : other ∈ item :: left := by
        have known : other ∈ (other :: right).filter (tied le other) :=
          List.mem_filter.mpr ⟨List.mem_cons_self, self other⟩
        rw [← same other] at known
        exact List.mem_of_mem_filter known
      have first : le item other = true := by
        rcases List.mem_cons.mp memOther with rfl | later
        · exact refl _
        · exact (List.pairwise_cons.mp sortedLeft).1 other later
      have second : le other item = true := by
        rcases List.mem_cons.mp mem with rfl | later
        · exact refl _
        · exact (List.pairwise_cons.mp sortedRight).1 item later
      have heads := same item
      rw [List.filter_cons_of_pos (self item), List.filter_cons_of_pos (by rw [tied, first, second]; rfl)] at heads
      obtain ⟨rfl, _⟩ := List.cons.inj heads
      congr 1
      refine ih (List.pairwise_cons.mp sortedLeft).2 (List.pairwise_cons.mp sortedRight).2 fun other => ?_
      have rest := same other
      rw [List.filter_cons, List.filter_cons] at rest
      split at rest
      · exact (List.cons.inj rest).2
      · exact rest

theorem mergeSort_flatten_map_mergeSort (parts : List (List Item)) :
    ((parts.map (List.mergeSort · le)).flatten).mergeSort le = parts.flatten.mergeSort le := by
  have refl (item : Item) : le item item = true := by simpa using total item item
  refine eq_of_filter_tied_eq refl (List.pairwise_mergeSort trans total _) (List.pairwise_mergeSort trans total _)
    fun item => ?_
  rw [filter_tied_mergeSort trans total, filter_tied_mergeSort trans total, List.filter_flatten, List.filter_flatten,
    List.map_map]
  congr 1
  refine List.map_congr_left fun part _ => ?_
  exact filter_tied_mergeSort trans total item part

/-- What holds of the items of a list in their order holds of its ties after sorting. -/
theorem pairwise_mergeSort_of_tied {holds : Item → Item → Prop} {items : List Item} (ordered : items.Pairwise holds) :
    (items.mergeSort le).Pairwise fun left right => tied le left right = true → holds left right := by
  rw [List.pairwise_iff_forall_sublist]
  intro left right sublist ties
  have self : tied le left left = true := by simpa [tied] using total left left
  have kept := sublist.filter (tied le left)
  rw [filter_tied_mergeSort trans total, List.filter_cons_of_pos self, List.filter_cons_of_pos ties] at kept
  exact List.pairwise_iff_forall_sublist.mp ordered (kept.trans List.filter_sublist)

end

-- Orders in which something else decides between what is the same at first.

section

variable {Key : Type} [DecidableEq Key] {le : Key → Key → Bool}

theorem lexicographic_trans
    (trans : ∀ first second third, le first second = true → le second third = true → le first third = true)
    (antisymm : ∀ left right, le left right = true → le right left = true → left = right)
    {first second third : Key} {near far whole : Bool}
    (left : (if first = second then near else le first second) = true)
    (right : (if second = third then far else le second third) = true)
    (tie : near = true → far = true → whole = true) :
    (if first = third then whole else le first third) = true := by
  by_cases same : first = second
  · subst same
    rw [if_pos rfl] at left
    split at right
    · rename_i ends
      rw [if_pos ends]
      exact tie left right
    · rename_i ends
      rwa [if_neg ends]
  · rw [if_neg same] at left
    split at right
    · rename_i ends
      rwa [← ends, if_neg same]
    · -- Two differences in a row cannot lead back to the start.
      have ends : first ≠ third := by
        rintro rfl
        exact same (antisymm _ _ left right)
      rw [if_neg ends]
      exact trans _ _ _ left right

theorem lexicographic_total (total : ∀ left right, (le left right || le right left) = true) {left right : Key}
    {forth back : Bool} (tie : (forth || back) = true) :
    ((if left = right then forth else le left right) || (if right = left then back else le right left)) = true := by
  by_cases same : left = right
  · rw [if_pos same, if_pos same.symm, tie]
  · rw [if_neg same, if_neg (Ne.symm same), total]

end

end BslLint
