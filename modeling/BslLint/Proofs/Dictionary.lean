import BslLint.Dictionary
import Mathlib.Data.List.Forall2
import Mathlib.Data.Option.Basic
import Mathlib.Data.String.Basic

/-! Dictionaries are determined by what they give for each key. Made from a list of entries, a dictionary gives the
value that was given last for the key, so that the order of entries with different keys does not matter. -/

set_option autoImplicit false

namespace BslLint

def lastGiven? {Key Value : Type} [DecidableEq Key] (pairs : List (Key × Value)) (key : Key) : Option Value :=
  ((pairs.filter fun pair => pair.1 = key).getLast?).map Prod.snd

theorem lastGiven?_cons {Key Value : Type} [DecidableEq Key] (pair : Key × Value) (rest : List (Key × Value))
    (key : Key) :
    lastGiven? (pair :: rest) key = (lastGiven? rest key).or (if pair.1 = key then some pair.2 else none) := by
  rw [lastGiven?, lastGiven?, List.filter_cons]
  by_cases same : pair.1 = key
  · rw [if_pos (by simpa using same), if_pos same, List.getLast?_cons]
    cases (rest.filter fun other => other.1 = key).getLast? <;> rfl
  · rw [if_neg (by simpa using same), if_neg same, Option.or_none]

theorem lastGiven?_eq_none {Key Value : Type} [DecidableEq Key] {pairs : List (Key × Value)} {key : Key}
    (absent : ∀ pair ∈ pairs, pair.1 ≠ key) : lastGiven? pairs key = none := by
  rw [lastGiven?, List.filter_eq_nil_iff.mpr fun pair member => by simpa using absent pair member]
  rfl

theorem lastGiven?_of_mem {Key Value : Type} [DecidableEq Key] {pairs : List (Key × Value)}
    (distinct : (pairs.map Prod.fst).Nodup) {key : Key} {value : Value} (member : (key, value) ∈ pairs) :
    lastGiven? pairs key = some value := by
  induction pairs with
  | nil => cases member
  | cons pair rest ih =>
    rw [List.map_cons, List.nodup_cons] at distinct
    rw [lastGiven?_cons]
    rcases List.mem_cons.mp member with rfl | later
    · have absent : lastGiven? rest key = none :=
        lastGiven?_eq_none fun other present same => distinct.1 (List.mem_map.mpr ⟨other, present, same⟩)
      rw [absent, if_pos rfl]
      rfl
    · rw [ih distinct.2 later]
      rfl

theorem lastGiven?_eq_some_iff {Key Value : Type} [DecidableEq Key] {pairs : List (Key × Value)}
    (distinct : (pairs.map Prod.fst).Nodup) {key : Key} {value : Value} :
    lastGiven? pairs key = some value ↔ (key, value) ∈ pairs := by
  refine ⟨fun given => ?_, lastGiven?_of_mem distinct⟩
  obtain ⟨⟨found, value⟩, last, rfl⟩ := Option.map_eq_some_iff.mp given
  obtain ⟨member, same⟩ := List.mem_filter.mp (List.mem_of_getLast? last)
  obtain rfl : found = key := of_decide_eq_true same
  exact member

/-- Entries that are related one by one, with the same keys, have related values last. -/
theorem lastGiven?_rel {Key Value Other : Type} [DecidableEq Key] {related : Value → Other → Prop}
    {fields : List (Option Key × Value)} {pairs : List (Key × Other)}
    (all : List.Forall₂ (fun field pair => field.1 = some pair.1 ∧ related field.2 pair.2) fields pairs) (key : Key) :
    Option.Rel related (lastGiven? fields (some key)) (lastGiven? pairs key) := by
  induction all with
  | nil => exact .none
  | @cons field pair fields pairs first _ ih =>
    rw [lastGiven?_cons, lastGiven?_cons, first.1]
    generalize lastGiven? fields (some key) = given, lastGiven? pairs key = held at ih ⊢
    cases ih with
    | some related => exact .some related
    | none =>
      by_cases same : pair.1 = key
      · simpa only [same, if_pos] using .some first.2
      · simpa only [Option.some.injEq, same, if_neg] using .none

namespace Dictionary

variable {Value : Type} {entries : Dictionary Value}

-- The entries stand in the order of their keys, none of which occurs twice.
def Ascending (entries : Dictionary Value) : Prop :=
  entries.Pairwise fun first second => first.1 < second.1

instance : Decidable (Ascending entries) :=
  inferInstanceAs (Decidable (entries.Pairwise _))

theorem get?_of_forall_ne {key : String} (absent : ∀ entry ∈ entries, entry.1 ≠ key) : get? entries key = none := by
  induction entries with
  | nil => rfl
  | cons entry rest ih =>
    rw [get?, if_neg (absent entry List.mem_cons_self)]
    exact ih fun other present => absent other (List.mem_cons_of_mem entry present)

theorem get?_of_forall_lt {key : String} (above : ∀ entry ∈ entries, key < entry.1) : get? entries key = none :=
  get?_of_forall_ne fun entry present same => lt_irrefl key (same ▸ above entry present)

-- What a dictionary gives for each key determines its entries.
theorem eq_of_get?_eq {other : Dictionary Value} (ascending : Ascending entries) (otherAscending : Ascending other)
    (same : ∀ key, get? entries key = get? other key) : entries = other := by
  induction entries generalizing other with
  | nil =>
    cases other with
    | nil => rfl
    | cons entry rest =>
      have absent := same entry.1
      rw [get?, get?, if_pos rfl] at absent
      cases absent
  | cons entry rest ih =>
    cases other with
    | nil =>
      have absent := same entry.1
      rw [get?, get?, if_pos rfl] at absent
      cases absent
    | cons first others =>
      obtain ⟨key, value⟩ := entry
      obtain ⟨firstKey, firstValue⟩ := first
      obtain ⟨above, rising⟩ := List.pairwise_cons.mp ascending
      obtain ⟨firstAbove, otherRising⟩ := List.pairwise_cons.mp otherAscending
      -- Each of the two first keys has a value on the other side, where nothing below the first key has one.
      have keys : key = firstKey := by
        have left := same key
        have right := same firstKey
        rw [get?, get?, if_pos rfl] at left
        rw [get?, get?, if_pos rfl] at right
        rcases lt_trichotomy key firstKey with below | same | below
        · rw [if_neg below.ne', get?_of_forall_lt fun entry present => below.trans (firstAbove entry present)] at left
          cases left
        · exact same
        · rw [if_neg below.ne', get?_of_forall_lt fun entry present => below.trans (above entry present)] at right
          cases right
      subst keys
      have values := same key
      rw [get?, get?, if_pos rfl, if_pos rfl, Option.some.injEq] at values
      subst values
      congr 1
      refine ih rising otherRising fun other => ?_
      have rests := same other
      rw [get?, get?] at rests
      split at rests
      · rename_i same
        subst same
        rw [get?_of_forall_lt above, get?_of_forall_lt firstAbove]
      · exact rests

theorem mem_insert {key : String} {value : Value} {entry : String × Value}
    (present : entry ∈ insert entries key value) : entry = (key, value) ∨ entry ∈ entries := by
  induction entries with
  | nil => exact .inl (List.mem_singleton.mp present)
  | cons first rest ih =>
    rw [insert] at present
    split at present
    · exact List.mem_cons.mp present
    · split at present
      · exact (List.mem_cons.mp present).imp_right (List.mem_cons_of_mem first)
      · rcases List.mem_cons.mp present with rfl | later
        · exact .inr List.mem_cons_self
        · exact (ih later).imp_right (List.mem_cons_of_mem first)

theorem ascending_insert (ascending : Ascending entries) (key : String) (value : Value) :
    Ascending (insert entries key value) := by
  induction entries with
  | nil => exact List.pairwise_singleton _ _
  | cons first rest ih =>
    obtain ⟨above, rising⟩ := List.pairwise_cons.mp ascending
    rw [insert]
    split
    · rename_i below
      refine List.pairwise_cons.mpr ⟨?_, ascending⟩
      intro other present
      rcases List.mem_cons.mp present with rfl | later
      · exact below
      · exact below.trans (above other later)
    · rename_i notBelow
      split
      · rename_i same
        subst same
        exact List.pairwise_cons.mpr ⟨above, rising⟩
      · rename_i differs
        refine List.pairwise_cons.mpr ⟨?_, ih rising⟩
        intro other present
        rcases mem_insert present with rfl | later
        · exact lt_of_le_of_ne (not_lt.mp notBelow) differs
        · exact above other later

theorem ascending_foldl_insert (pairs : List (String × Value)) (ascending : Ascending entries) :
    Ascending (pairs.foldl (fun entries pair => insert entries pair.1 pair.2) entries) := by
  induction pairs generalizing entries with
  | nil => exact ascending
  | cons pair rest ih => exact ih (ascending_insert ascending pair.1 pair.2)

theorem ascending_ofList (pairs : List (String × Value)) : Ascending (ofList pairs) :=
  ascending_foldl_insert pairs .nil

theorem mem_of_mem_ofList {pairs : List (String × Value)} {entry : String × Value}
    (member : entry ∈ ofList pairs) : entry ∈ pairs := by
  have folded (pairs : List (String × Value)) (entries : Dictionary Value)
      (member : entry ∈ pairs.foldl (fun entries pair => insert entries pair.1 pair.2) entries) :
      entry ∈ pairs ∨ entry ∈ entries := by
    induction pairs generalizing entries with
    | nil => exact .inr member
    | cons pair rest ih =>
      rcases ih _ member with later | inserted
      · exact .inl (List.mem_cons_of_mem pair later)
      · rcases mem_insert inserted with rfl | held
        · exact .inl List.mem_cons_self
        · exact .inr held
  exact (folded pairs [] member).elim id nofun

theorem get?_foldl_insert (pairs : List (String × Value)) (key : String) :
    get? (pairs.foldl (fun entries pair => insert entries pair.1 pair.2) entries) key =
      (lastGiven? pairs key).or (get? entries key) := by
  induction pairs generalizing entries with
  | nil => rfl
  | cons pair rest ih =>
    rw [List.foldl_cons, ih, get?_insert, lastGiven?_cons, Option.or_assoc]
    split <;> rfl

theorem get?_ofList (pairs : List (String × Value)) (key : String) :
    get? (ofList pairs) key = lastGiven? pairs key := by
  rw [ofList, get?_foldl_insert]
  exact Option.or_none

-- Only the order of entries with the same key matters.
theorem ofList_congr {pairs others : List (String × Value)}
    (same : ∀ key, pairs.filter (fun pair => pair.1 = key) = others.filter fun pair => pair.1 = key) :
    ofList pairs = ofList others := by
  refine eq_of_get?_eq (ascending_ofList pairs) (ascending_ofList others) fun key => ?_
  rw [get?_ofList, get?_ofList, lastGiven?, lastGiven?, same]

theorem filter_of_ascending (ascending : Ascending entries) (key : String) :
    entries.filter (fun entry => entry.1 = key) = ((get? entries key).map (key, ·)).toList := by
  induction entries with
  | nil => rfl
  | cons entry rest ih =>
    obtain ⟨above, rising⟩ := List.pairwise_cons.mp ascending
    rw [List.filter_cons, ih rising, get?]
    by_cases same : entry.1 = key
    · subst same
      rw [if_pos (decide_eq_true rfl), if_pos rfl, get?_of_forall_lt above]
      rfl
    · rw [if_neg (by simpa using same), if_neg same]

/-- Listed in any order, the entries of a dictionary make up the dictionary again. -/
theorem ofList_of_perm {pairs : List (String × Value)} (listed : pairs.Perm entries) (ascending : Ascending entries) :
    ofList pairs = entries := by
  refine eq_of_get?_eq (ascending_ofList pairs) ascending fun key => ?_
  have given := listed.filter fun pair => pair.1 = key
  rw [filter_of_ascending ascending] at given
  rw [get?_ofList, lastGiven?]
  cases held : get? entries key with
  | none =>
    rw [held] at given
    rw [given.eq_nil]
    rfl
  | some value =>
    rw [held] at given
    rw [given.eq_singleton]
    rfl

end Dictionary

end BslLint
