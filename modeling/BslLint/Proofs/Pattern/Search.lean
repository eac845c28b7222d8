import BslLint.Pattern.Search
import BslLint.Proofs.Source.Words

/-! Where matches of a pattern lie. A search never leaves its line and never goes back, so that the marked part
of a match is a part of the line. -/

set_option autoImplicit false

namespace BslLint.Pattern

open Source

structure Place.On (line : List Char) (place : Place) : Prop where
  counted : place.offset = place.before.length
  split : place.before.reverse ++ place.after = line
  mark : ∀ span, place.mark = some span → span.line = line

def Place.Reaches (line : List Char) (place later : Place) : Prop :=
  later.On line ∧ place.offset ≤ later.offset

variable {line : List Char} {place later : Place}

theorem Place.Reaches.trans {last : Place} (first : place.Reaches line later) (second : later.Reaches line last) :
    place.Reaches line last :=
  ⟨second.1, Nat.le_trans first.2 second.2⟩

theorem Place.On.self (on : place.On line) : place.Reaches line place :=
  ⟨on, Nat.le_refl _⟩

theorem Place.On.next? (on : place.On line) (next : place.next? = some later) : place.Reaches line later := by
  obtain ⟨offset, before, after, mark⟩ := place
  cases after with
  | nil => cases next
  | cons char rest =>
    cases next
    obtain ⟨counted, split, marked⟩ := on
    refine ⟨⟨?_, ?_, marked⟩, Nat.le_succ offset⟩
    · simpa using counted
    · simpa using split

theorem Place.On.line_spanTo (on : place.On line) (reached : place.Reaches line later) :
    (place.spanTo later).line = line := by
  obtain ⟨⟨offset, split, _⟩, le⟩ := reached
  have rest : later.after = place.after.drop (later.offset - place.offset) := by
    have fromLater : line.drop later.offset = later.after := by
      rw [← split, offset, ← List.length_reverse, List.drop_left]
    have fromPlace : line.drop place.offset = place.after := by
      rw [← on.split, on.counted, ← List.length_reverse, List.drop_left]
    rw [← fromLater, ← fromPlace, List.drop_drop, Nat.add_sub_cancel' le]
  rw [Span.line, spanTo, rest, List.append_assoc, List.take_append_drop]
  exact on.split

theorem Place.On.marked (reached : place.Reaches line later) {span : Span} (own : span.line = line) :
    place.Reaches line { later with mark := some span } := by
  obtain ⟨⟨offset, split, _⟩, le⟩ := reached
  refine ⟨⟨offset, split, ?_⟩, le⟩
  rintro other ⟨⟩
  exact own

theorem distinct_sublist (places : List Place) : (distinct places).Sublist places := by
  induction places with
  | nil => exact .slnil
  | cons place rest ih => exact (List.filter_sublist.trans ih).cons_cons place

theorem distinctReached_sublist (reached : List Reached) : (distinctReached reached).Sublist reached := by
  induction reached with
  | nil => exact .slnil
  | cons entry rest ih => exact (List.filter_sublist.trans ih).cons_cons entry

def LeadsOn (line : List Char) (step : Place → List Place) : Prop :=
  ∀ place, place.On line → ∀ stop ∈ step place, place.Reaches line stop

variable {step : Place → List Place}

theorem LeadsOn.after (leads : LeadsOn line step) (reached : place.Reaches line later) :
    ∀ stop ∈ step later, place.Reaches line stop :=
  fun stop mem => reached.trans (leads later reached.1 stop mem)

theorem LeadsOn.turn (leads : LeadsOn line step) (rule : Turn) {reached : List Reached}
    (all : ∀ entry ∈ reached, place.Reaches line entry.place) :
    ∀ entry ∈ turn rule step reached, place.Reaches line entry.place := by
  intro entry mem
  obtain ⟨former, known, new⟩ := List.mem_flatMap.mp ((distinctReached_sublist _).subset mem)
  have before := all former known
  have further (entry : Reached) (progress : Place → Bool)
      (mem : entry ∈ (step former.place).map fun place => ⟨place, progress place⟩) :
      place.Reaches line entry.place := by
    obtain ⟨stop, found, rfl⟩ := List.mem_map.mp mem
    exact leads.after before stop found
  have ended (entry : Reached) (mem : entry ∈ if rule.mayEnd then [⟨former.place, false⟩] else []) :
      place.Reaches line entry.place := by
    split at mem
    · cases List.mem_singleton.mp mem
      exact before
    · cases mem
  simp only at new
  split at new
  · split at new
    · exact (List.mem_append.mp new).elim (further entry _) (ended entry)
    · exact (List.mem_append.mp new).elim (ended entry) (further entry _)
  · cases List.mem_singleton.mp new
    exact before

theorem LeadsOn.turns (leads : LeadsOn line step) (count : Nat) (rule : Turn) {reached : List Reached}
    (all : ∀ entry ∈ reached, place.Reaches line entry.place) :
    ∀ entry ∈ turns count rule step reached, place.Reaches line entry.place := by
  induction count generalizing reached with
  | zero => exact all
  | succ count ih =>
    unfold Pattern.turns
    split
    · exact ih (leads.turn rule all)
    · exact all

theorem LeadsOn.looped (leads : LeadsOn line step) {reached : List Reached}
    (all : ∀ entry ∈ reached, place.Reaches line entry.place) (least : Nat) (greedy : Bool) :
    ∀ entry ∈ (let needed := Pattern.turns (least - 1) ⟨false, greedy, false⟩ step reached
        if least = 0 then needed else Pattern.turn ⟨false, greedy, true⟩ step needed),
      place.Reaches line entry.place := by
  dsimp only
  split
  · exact leads.turns _ _ all
  · exact leads.turn _ (leads.turns _ _ all)

theorem LeadsOn.repeatFrom (leads : LeadsOn line step) (least : Nat) (most : Option Nat) (greedy : Bool) :
    LeadsOn line (repeatFrom step least most greedy) := by
  intro place on stop mem
  have start : ∀ entry ∈ [Reached.mk place true], place.Reaches line entry.place := by
    intro entry mem
    cases List.mem_singleton.mp mem
    exact on.self
  obtain ⟨entry, known, rfl⟩ := List.mem_map.mp ((distinct_sublist _).subset mem)
  cases most with
  | some most => exact leads.turns _ _ (leads.turns _ _ start) entry known
  | none => exact leads.turns _ _ (leads.looped start least greedy) entry known

-- A match ends in its line and not before it began.
theorem ends_leadsOn (line : List Char) (pattern : Pattern) : LeadsOn line (ends pattern) := by
  induction pattern with
  | empty =>
    intro place on stop mem
    cases List.mem_singleton.mp mem
    exact on.self
  | charIn set =>
    intro place on stop mem
    simp only [ends] at mem
    split at mem
    · exact on.next? (Option.mem_toList.mp mem)
    · cases mem
  | assertion condition =>
    intro place on stop mem
    simp only [ends] at mem
    split at mem
    · cases List.mem_singleton.mp mem
      exact on.self
    · cases mem
  | sequence first second ihFirst ihSecond =>
    intro place on stop mem
    obtain ⟨middle, found, next⟩ := List.mem_flatMap.mp ((distinct_sublist _).subset mem)
    exact ihSecond.after (ihFirst place on middle found) stop next
  | either first second ihFirst ihSecond =>
    intro place on stop mem
    rcases List.mem_append.mp ((distinct_sublist _).subset mem) with left | right
    · exact ihFirst place on stop left
    · exact ihSecond place on stop right
  | repeated body least most greedy ih => exact ih.repeatFrom least most greedy
  | marked body ih =>
    intro place on stop mem
    obtain ⟨stop, found, rfl⟩ := List.mem_map.mp mem
    have reached := ih place on stop found
    exact Place.On.marked reached (on.line_spanTo reached)

theorem Place.on_unmarked {before after : List Char} {offset : Nat} (counted : offset = before.length) :
    (Place.mk offset before after none).On (before.reverse ++ after) :=
  ⟨counted, rfl, fun _ marked => nomatch marked⟩

/-- A search ends where the preferred match of the first place ends that has one. -/
theorem exists_start_of_searchFrom {pattern : Pattern} {before after : List Char} {offset : Nat} {stop : Place}
    (counted : offset = before.length) (found : searchFrom pattern before after offset = some stop) :
    ∃ start : Place, start.On (before.reverse ++ after) ∧ start.mark = none ∧ stop ∈ ends pattern start := by
  induction after generalizing before offset with
  | nil =>
    unfold searchFrom at found
    split at found
    · rename_i first rest places
      cases found
      exact ⟨_, Place.on_unmarked counted, rfl, places ▸ List.mem_cons_self⟩
    · cases found
  | cons char rest ih =>
    unfold searchFrom at found
    split at found
    · rename_i first others places
      cases found
      exact ⟨_, Place.on_unmarked counted, rfl, places ▸ List.mem_cons_self⟩
    · simpa using ih (by rw [counted, List.length_cons]) found

theorem searchFrom_on {pattern : Pattern} {before after : List Char} {offset : Nat} {stop : Place}
    (counted : offset = before.length) (found : searchFrom pattern before after offset = some stop) :
    stop.On (before.reverse ++ after) := by
  obtain ⟨start, on, _, mem⟩ := exists_start_of_searchFrom counted found
  exact (ends_leadsOn _ pattern start on stop mem).1

-- The marked part of a match is a part of the line.
theorem line_of_findMarked? {pattern : Pattern} {line : List Char} {span : Span}
    (found : findMarked? pattern line = some span) : span.line = line := by
  obtain ⟨stop, matched, mark⟩ := Option.bind_eq_some_iff.mp found
  exact (searchFrom_on rfl matched).mark span mark

end BslLint.Pattern
