import BslLint.Proofs.Pattern.Search

/-! Searches one after another, each from where the match before it ended. For a pattern that is one character followed
by as many of a set as there are, they find longest runs. -/

set_option autoImplicit false

namespace BslLint.Pattern

open Source

/-- All that searches find from a place on, by a pattern that matches no empty text. -/
inductive FindsAll (pattern : Pattern) : Place → List Span → Prop where
  | done {place : Place} : searchFrom (.marked pattern) place.before place.after place.offset = none →
      FindsAll pattern place []
  | next {place stop : Place} {span : Span} {rest : List Span} :
      searchFrom (.marked pattern) place.before place.after place.offset = some stop → stop.mark = some span →
      FindsAll pattern stop rest → FindsAll pattern place (span :: rest)

theorem FindsAll.unique {pattern : Pattern} {place : Place} {spans others : List Span}
    (finds : FindsAll pattern place spans) (findsToo : FindsAll pattern place others) : spans = others := by
  induction finds generalizing others with
  | done none =>
    cases findsToo with
    | done => rfl
    | next found => cases none.symm.trans found
  | next found marked _ ih =>
    cases findsToo with
    | done none => cases none.symm.trans found
    | next foundToo markedToo rest =>
      cases found.symm.trans foundToo
      cases marked.symm.trans markedToo
      rw [ih rest]

theorem head?_distinct (places : List Place) : (distinct places).head? = places.head? := by
  cases places <;> rfl

/-- None of the places that a repetition has reached goes on. -/
def Ended (reached : List Reached) : Prop :=
  ∀ entry ∈ reached, entry.goesOn = false

theorem turns_of_ended {reached : List Reached} (ended : Ended reached) (count : Nat) (rule : Turn)
    (step : Place → List Place) : turns count rule step reached = reached := by
  cases count with
  | zero => rfl
  | succ count =>
    have none : reached.any Reached.goesOn = false := by
      rw [List.any_eq_false]
      intro entry mem
      simp [ended entry mem]
    rw [turns, none, if_neg Bool.false_ne_true]

theorem distinctReached_cons (entry : Reached) {rest : List Reached} (ended : Ended rest) :
    ∃ others, distinctReached (entry :: rest) = entry :: others ∧ Ended others :=
  ⟨_, rfl, fun other mem => ended other ((distinctReached_sublist rest).subset (List.mem_filter.mp mem).1)⟩

theorem flatMap_of_ended {spread : Reached → List Reached}
    (same : ∀ entry, entry.goesOn = false → spread entry = [entry]) {reached : List Reached} (ended : Ended reached) :
    reached.flatMap spread = reached := by
  induction reached with
  | nil => rfl
  | cons entry rest ih =>
    obtain ⟨own, ended⟩ := List.forall_mem_cons.mp ended
    rw [List.flatMap_cons, same entry own, ih ended, List.singleton_append]

/-- A greedy turn from the first place, where all others have ended, prefers to go on. -/
theorem turn_cons (step : Place → List Place) (place : Place) {rest : List Reached} (ended : Ended rest) :
    turn ⟨true, true, true⟩ step (⟨place, true⟩ :: rest) = distinctReached
      ((step place).map (fun next => ⟨next, next.offset != place.offset⟩) ++ ⟨place, false⟩ :: rest) := by
  rw [turn, List.flatMap_cons, flatMap_of_ended (fun entry off => by rw [off, if_neg Bool.false_ne_true]) ended]
  simp only [if_true, Bool.true_and, List.append_assoc, List.singleton_append]
  rfl

variable {set first : CharSet} {run before after : List Char} {char : Char} {offset : Nat} {mark : Option Span}

theorem ends_charIn_of_contains (inside : set.contains char = true) :
    ends (.charIn set) ⟨offset, before, char :: after, mark⟩ = [⟨offset + 1, char :: before, after, mark⟩] := by
  rw [ends, List.head?_cons, Option.any_some, if_pos inside]
  rfl

theorem ends_charIn_of_stops (stops : ∀ char ∈ after.head?, set.contains char = false) :
    ends (.charIn set) ⟨offset, before, after, mark⟩ = [] := by
  have none : after.head?.any set.contains = false := by
    cases after with
    | nil => rfl
    | cons char _ => exact stops char rfl
  rw [ends, none, if_neg Bool.false_ne_true]

-- As long as the set goes on, so does a greedy repetition of it.
theorem turns_charIn (offset : Nat) (before : List Char) (mark : Option Span)
    (all : ∀ char ∈ run, set.contains char = true) (stops : ∀ char ∈ after.head?, set.contains char = false)
    {count : Nat} (enough : run.length < count) {rest : List Reached} (ended : Ended rest) :
    ∃ others, turns count ⟨true, true, true⟩ (ends (.charIn set))
        (⟨⟨offset, before, run ++ after, mark⟩, true⟩ :: rest) =
      ⟨⟨offset + run.length, run.reverse ++ before, after, mark⟩, false⟩ :: others := by
  induction run generalizing offset before rest count with
  | nil =>
    obtain ⟨count, rfl⟩ : ∃ less, count = less + 1 := ⟨count - 1, by omega⟩
    obtain ⟨others, kept, endedToo⟩ := distinctReached_cons ⟨⟨offset, before, after, mark⟩, false⟩ ended
    rw [turns, List.any_cons, Bool.true_or, if_pos rfl, turn_cons _ _ ended, List.nil_append,
      ends_charIn_of_stops stops, List.map_nil, List.nil_append, kept]
    exact ⟨others, turns_of_ended (List.forall_mem_cons.mpr ⟨rfl, endedToo⟩) _ _ _⟩
  | cons char run ih =>
    obtain ⟨count, rfl⟩ : ∃ less, count = less + 1 := ⟨count - 1, by omega⟩
    obtain ⟨inside, all⟩ := List.forall_mem_cons.mp all
    have endedHere : Ended (⟨⟨offset, before, char :: (run ++ after), mark⟩, false⟩ :: rest) :=
      List.forall_mem_cons.mpr ⟨rfl, ended⟩
    obtain ⟨others, kept, endedToo⟩ :=
      distinctReached_cons ⟨⟨offset + 1, char :: before, run ++ after, mark⟩, true⟩ endedHere
    have progress : (offset + 1 != offset) = true := by simp
    rw [turns, List.any_cons, Bool.true_or, if_pos rfl, turn_cons _ _ ended, List.cons_append,
      ends_charIn_of_contains inside, List.map_singleton, List.singleton_append, progress, kept]
    have passed : offset + (char :: run).length = offset + 1 + run.length := by
      rw [List.length_cons]
      omega
    rw [passed, List.reverse_cons, List.append_assoc, List.singleton_append]
    exact ih _ _ all (Nat.lt_of_succ_lt_succ enough) endedToo

theorem head?_ends_repeated (all : ∀ char ∈ run, set.contains char = true)
    (stops : ∀ char ∈ after.head?, set.contains char = false) :
    (ends (.repeated (.charIn set) 0 none true) ⟨offset, before, run ++ after, mark⟩).head? =
      some ⟨offset + run.length, run.reverse ++ before, after, mark⟩ := by
  have enough : run.length < (run ++ after).length + 1 := by
    rw [List.length_append]
    omega
  obtain ⟨others, goesOn⟩ := turns_charIn offset before mark all stops enough (List.forall_mem_nil _)
  have opened : ends (.repeated (.charIn set) 0 none true) ⟨offset, before, run ++ after, mark⟩ =
      distinct ((turns ((run ++ after).length + 1) ⟨true, true, true⟩ (ends (.charIn set))
        [⟨⟨offset, before, run ++ after, mark⟩, true⟩]).map Reached.place) := rfl
  rw [opened, goesOn, head?_distinct, List.map_cons, List.head?_cons]

theorem head?_ends_repeated_one (nonempty : run ≠ []) (all : ∀ char ∈ run, set.contains char = true)
    (stops : ∀ char ∈ after.head?, set.contains char = false) :
    (ends (.repeated (.charIn set) 1 none true) ⟨offset, before, run ++ after, mark⟩).head? =
      some ⟨offset + run.length, run.reverse ++ before, after, mark⟩ := by
  obtain ⟨char, run, rfl⟩ := List.exists_cons_of_ne_nil nonempty
  obtain ⟨inside, all⟩ := List.forall_mem_cons.mp all
  have enough : run.length < (char :: run ++ after).length + 1 := by
    simp only [List.cons_append, List.length_cons, List.length_append]
    omega
  obtain ⟨others, goesOn⟩ := turns_charIn (offset + 1) (char :: before) mark all stops enough (List.forall_mem_nil _)
  have first : turn ⟨false, true, true⟩ (ends (.charIn set)) [⟨⟨offset, before, char :: run ++ after, mark⟩, true⟩] =
      [⟨⟨offset + 1, char :: before, run ++ after, mark⟩, true⟩] := by
    simp [turn, ends_charIn_of_contains inside, distinctReached]
  have opened : ends (.repeated (.charIn set) 1 none true) ⟨offset, before, char :: run ++ after, mark⟩ =
      distinct ((turns ((char :: run ++ after).length + 1) ⟨true, true, true⟩ (ends (.charIn set))
        (turn ⟨false, true, true⟩ (ends (.charIn set))
          [⟨⟨offset, before, char :: run ++ after, mark⟩, true⟩])).map Reached.place) := rfl
  rw [opened, first, goesOn, head?_distinct]
  simp [Nat.add_comm, Nat.add_left_comm]

theorem head?_ends_assertion {condition : Assertion} (holds : condition.holds before after = true) :
    (ends (.assertion condition) ⟨offset, before, after, mark⟩).head? = some ⟨offset, before, after, mark⟩ := by
  simp [ends, holds]

theorem head?_ends_optional {body : Pattern} {place stop : Place} (found : (ends body place).head? = some stop) :
    (ends (.repeated body 0 (some 1) true) place).head? = some stop := by
  obtain ⟨others, places⟩ := List.head?_eq_some_iff.mp found
  have opened : ends (.repeated body 0 (some 1) true) place =
      distinct ((turns 1 ⟨true, true, false⟩ (ends body) [⟨place, true⟩]).map Reached.place) := rfl
  rw [opened, head?_distinct]
  simp [turns, turn, places, distinctReached]

theorem head?_ends_sequence {first second : Pattern} {place middle stop : Place}
    (earlier : (ends first place).head? = some middle) (later : (ends second middle).head? = some stop) :
    (ends (.sequence first second) place).head? = some stop := by
  obtain ⟨others, places⟩ := List.head?_eq_some_iff.mp earlier
  rw [ends, head?_distinct, places, List.flatMap_cons, List.head?_append, later, Option.some_or]

def runOf (first more : CharSet) : Pattern :=
  .sequence (.charIn first) (.repeated (.charIn more) 0 none true)

variable {more : CharSet}

theorem ends_runOf_of_stops (stops : ∀ char ∈ after.head?, first.contains char = false) :
    ends (.marked (runOf first more)) ⟨offset, before, after, mark⟩ = [] := by
  rw [ends, runOf, ends, ends_charIn_of_stops stops]
  rfl

theorem searchFrom_runOf_nil : searchFrom (.marked (runOf first more)) before [] offset = none := by
  have none : ∀ char ∈ ([] : List Char).head?, first.contains char = false := fun _ mem => nomatch mem
  rw [searchFrom, ends_runOf_of_stops none]

theorem searchFrom_runOf_of_stops (stops : first.contains char = false) :
    searchFrom (.marked (runOf first more)) before (char :: after) offset =
      searchFrom (.marked (runOf first more)) (char :: before) after (offset + 1) := by
  rw [searchFrom, ends_runOf_of_stops]
  rintro _ ⟨⟩
  exact stops

theorem searchFrom_runOf (starts : first.contains char = true) (all : ∀ char ∈ run, more.contains char = true)
    (stops : ∀ char ∈ after.head?, more.contains char = false) :
    searchFrom (.marked (runOf first more)) before (char :: run ++ after) offset =
      some ⟨offset + (char :: run).length, (char :: run).reverse ++ before, after,
        some ⟨before, char :: run, after⟩⟩ := by
  have preferred : (ends (runOf first more) ⟨offset, before, char :: run ++ after, none⟩).head? =
      some ⟨offset + 1 + run.length, run.reverse ++ char :: before, after, none⟩ := by
    rw [runOf, ends, head?_distinct, List.cons_append, ends_charIn_of_contains starts, List.flatMap_cons,
      List.flatMap_nil, List.append_nil, head?_ends_repeated all stops]
  obtain ⟨others, places⟩ := List.head?_eq_some_iff.mp preferred
  have counted : offset + 1 + run.length = offset + (char :: run).length := by
    rw [List.length_cons]
    omega
  rw [searchFrom.eq_def, ends, places, List.map_cons, Place.spanTo, counted, Nat.add_sub_cancel_left, List.take_left,
    List.reverse_cons, List.append_assoc, List.singleton_append]

theorem searchFrom_runOf_append (none : ∀ char ∈ run, first.contains char = false) :
    searchFrom (.marked (runOf first more)) before (run ++ after) offset =
      searchFrom (.marked (runOf first more)) (run.reverse ++ before) after (offset + run.length) := by
  induction run generalizing before offset with
  | nil => rfl
  | cons char run ih =>
    obtain ⟨stops, none⟩ := List.forall_mem_cons.mp none
    rw [List.cons_append, searchFrom_runOf_of_stops stops, ih none, List.reverse_cons, List.append_assoc,
      List.singleton_append, List.length_cons, Nat.add_assoc, Nat.add_comm 1]

namespace FindsAll

variable {spans : List Span}

theorem skip (none : ∀ char ∈ run, first.contains char = false)
    (finds : ∀ mark, FindsAll (runOf first more) ⟨offset + run.length, run.reverse ++ before, after, mark⟩ spans) :
    FindsAll (runOf first more) ⟨offset, before, run ++ after, mark⟩ spans := by
  cases finds mark with
  | done nothing => exact .done ((searchFrom_runOf_append none).trans nothing)
  | next found marked rest => exact .next ((searchFrom_runOf_append none).trans found) marked rest

-- Where a match can begin, a longest run is found.
theorem longest (starts : first.contains char = true) (all : ∀ char ∈ run, more.contains char = true)
    (stops : ∀ char ∈ after.head?, more.contains char = false)
    (finds : ∀ mark, FindsAll (runOf first more)
      ⟨offset + (char :: run).length, (char :: run).reverse ++ before, after, mark⟩ spans) :
    FindsAll (runOf first more) ⟨offset, before, char :: run ++ after, mark⟩ (⟨before, char :: run, after⟩ :: spans) :=
  .next (searchFrom_runOf starts all stops) rfl (finds _)

end FindsAll

end BslLint.Pattern
