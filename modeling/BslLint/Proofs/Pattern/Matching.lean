import BslLint.Proofs.Pattern.Search
import Mathlib.Logic.Function.Iterate

/-! What a pattern matches, apart from how its matches are found: a relation between the offsets where a match begins
and ends. A search tries the ways to match in an order of preference and drops those that end where an earlier one
does, and a repetition takes no turn without progress; none of this loses an offset. -/

set_option autoImplicit false

namespace BslLint.Pattern

open Source

inductive Times (step : Nat → Nat → Prop) : Nat → Nat → Nat → Prop where
  | none (start : Nat) : Times step 0 start start
  | more {count start middle stop : Nat} : Times step count start middle → step middle stop →
      Times step (count + 1) start stop

def Matches (text : List Char) : Pattern → Nat → Nat → Prop
  | .empty, start, stop => start = stop
  | .charIn set, start, stop => stop = start + 1 ∧ ∃ char, text[start]? = some char ∧ set.contains char = true
  | .assertion condition, start, stop =>
    start = stop ∧ condition.holds (text.take start).reverse (text.drop start) = true
  | .sequence first second, start, stop =>
    ∃ middle, Matches text first start middle ∧ Matches text second middle stop
  | .either first second, start, stop => Matches text first start stop ∨ Matches text second start stop
  | .repeated body least most _, start, stop =>
    ∃ count, least ≤ count ∧ (∀ bound, most = some bound → count ≤ max least bound) ∧
      Times (Matches text body) count start stop
  | .marked body, start, stop => Matches text body start stop

namespace Times

variable {step : Nat → Nat → Prop} {start middle stop : Nat}

theorem zero_iff : Times step 0 start stop ↔ stop = start := by
  constructor
  · intro steps
    cases steps
    rfl
  · rintro rfl
    exact .none _

theorem succ_iff {count : Nat} :
    Times step (count + 1) start stop ↔ ∃ middle, Times step count start middle ∧ step middle stop := by
  constructor
  · intro steps
    cases steps with
    | more earlier last => exact ⟨_, earlier, last⟩
  · rintro ⟨middle, earlier, last⟩
    exact .more earlier last

theorem add_iff {first second : Nat} :
    Times step (first + second) start stop ↔ ∃ middle, Times step first start middle ∧ Times step second middle stop := by
  induction second generalizing stop with
  | zero => simp [zero_iff]
  | succ second ih =>
    rw [← Nat.add_assoc, succ_iff]
    constructor
    · rintro ⟨later, steps, last⟩
      obtain ⟨middle, earlier, others⟩ := ih.mp steps
      exact ⟨middle, earlier, .more others last⟩
    · rintro ⟨middle, earlier, steps⟩
      obtain ⟨later, others, last⟩ := succ_iff.mp steps
      exact ⟨later, ih.mpr ⟨middle, earlier, others⟩, last⟩

end Times

def Finds (line : List Char) (step : Place → List Place) (relation : Nat → Nat → Prop) : Prop :=
  ∀ place, place.On line → ∀ stop, (∃ later ∈ step place, later.offset = stop) ↔ relation place.offset stop

def Climbs (line : List Char) (relation : Nat → Nat → Prop) : Prop :=
  ∀ start stop, start ≤ line.length → relation start stop → start ≤ stop ∧ stop ≤ line.length

def Place.ofOffset (line : List Char) (offset : Nat) : Place :=
  ⟨offset, (line.take offset).reverse, line.drop offset, none⟩

section

variable {line : List Char} {place later : Place}

theorem Place.ofOffset_on {offset : Nat} (inside : offset ≤ line.length) : (Place.ofOffset line offset).On line := by
  refine ⟨?_, ?_, fun _ marked => nomatch marked⟩
  · simp [Place.ofOffset, inside]
  · simp [Place.ofOffset]

namespace Place.On

theorem offset_le (on : place.On line) : place.offset ≤ line.length := by
  rw [on.counted, ← on.split, List.length_append, List.length_reverse]
  exact Nat.le_add_right _ _

theorem before_eq (on : place.On line) : place.before = (line.take place.offset).reverse := by
  rw [on.counted, ← on.split, ← List.length_reverse, List.take_left, List.reverse_reverse]

theorem after_eq (on : place.On line) : place.after = line.drop place.offset := by
  rw [on.counted, ← on.split, ← List.length_reverse, List.drop_left]

theorem length_after (on : place.On line) : place.offset + place.after.length = line.length := by
  rw [on.after_eq, List.length_drop]
  exact Nat.add_sub_cancel' on.offset_le

theorem start_spanTo (on : place.On line) (later : Place) : (place.spanTo later).start = place.offset :=
  on.counted.symm

theorem stop_spanTo (on : place.On line) (reached : place.Reaches line later) :
    (place.spanTo later).stop = later.offset := by
  have rest := on.length_after
  have inside := reached.1.offset_le
  have after := reached.2
  rw [Span.stop, Place.spanTo, ← on.counted, List.length_take]
  omega

end Place.On

theorem mem_offset_distinct (places : List Place) (stop : Nat) :
    (∃ later ∈ distinct places, later.offset = stop) ↔ ∃ later ∈ places, later.offset = stop := by
  constructor
  · rintro ⟨later, mem, reached⟩
    exact ⟨later, (distinct_sublist places).subset mem, reached⟩
  · induction places with
    | nil => exact id
    | cons place rest ih =>
      rintro ⟨later, mem, rfl⟩
      by_cases same : place.offset = later.offset
      · exact ⟨place, List.mem_cons_self, same⟩
      · have inRest := (List.mem_cons.mp mem).resolve_left fun equal => same (equal ▸ rfl)
        obtain ⟨kept, memKept, agrees⟩ := ih ⟨later, inRest, rfl⟩
        refine ⟨kept, List.mem_cons_of_mem _ (List.mem_filter.mpr ⟨memKept, ?_⟩), agrees⟩
        simpa [agrees] using Ne.symm same

variable {step : Place → List Place} {relation : Nat → Nat → Prop}

theorem Finds.climbs (finds : Finds line step relation) (leads : LeadsOn line step) : Climbs line relation := by
  intro start stop inside related
  obtain ⟨later, mem, rfl⟩ := (finds (.ofOffset line start) (Place.ofOffset_on inside) stop).mpr related
  obtain ⟨on, after⟩ := leads _ (Place.ofOffset_on inside) later mem
  exact ⟨after, on.offset_le⟩

-- Repetitions. What matters of the places that a repetition has reached are their offsets, and whether it goes on from
-- there.

def Has (reached : List Reached) (offset : Nat) (goesOn : Bool) : Prop :=
  ∃ entry ∈ reached, entry.place.offset = offset ∧ entry.goesOn = goesOn

def spread (rule : Turn) (relation : Nat → Nat → Prop) (known : Nat → Bool → Prop) (offset : Nat) (goesOn : Bool) :
    Prop :=
  (∃ former, known former true ∧ relation former offset ∧ goesOn = !(rule.progress && offset == former)) ∨
    (rule.mayEnd = true ∧ known offset true ∧ goesOn = false) ∨ (known offset false ∧ goesOn = false)

theorem has_distinctReached (reached : List Reached) (offset : Nat) (goesOn : Bool) :
    Has (distinctReached reached) offset goesOn ↔ Has reached offset goesOn := by
  constructor
  · rintro ⟨entry, mem, agrees⟩
    exact ⟨entry, (distinctReached_sublist reached).subset mem, agrees⟩
  · induction reached with
    | nil => exact id
    | cons first rest ih =>
      rintro ⟨entry, mem, rfl, rfl⟩
      by_cases same : first.place.offset = entry.place.offset ∧ first.goesOn = entry.goesOn
      · exact ⟨first, List.mem_cons_self, same⟩
      · have inRest := (List.mem_cons.mp mem).resolve_left fun equal => same (equal ▸ ⟨rfl, rfl⟩)
        obtain ⟨kept, memKept, agrees⟩ := ih ⟨entry, inRest, rfl, rfl⟩
        refine ⟨kept, List.mem_cons_of_mem _ (List.mem_filter.mpr ⟨memKept, ?_⟩), agrees⟩
        rw [agrees.1, agrees.2, Bool.or_eq_true, bne_iff_ne, bne_iff_ne]
        exact (not_and_or.mp same).imp Ne.symm Ne.symm

theorem has_turn (finds : Finds line step relation) (rule : Turn) {reached : List Reached}
    (all : ∀ entry ∈ reached, entry.place.On line) :
    Has (turn rule step reached) = spread rule relation (Has reached) := by
  funext offset goesOn
  apply propext
  rw [turn, has_distinctReached]
  -- The order in which a turn lists what it reaches does not matter here.
  have listed (entry : Reached) : ∀ new, new ∈ (if entry.goesOn then
        let further := (step entry.place).map fun place =>
          Reached.mk place (!(rule.progress && place.offset == entry.place.offset))
        let ended := if rule.mayEnd then [Reached.mk entry.place false] else []
        if rule.greedy then further ++ ended else ended ++ further
      else [entry]) ↔
      (entry.goesOn = true ∧ ∃ later ∈ step entry.place,
        Reached.mk later (!(rule.progress && later.offset == entry.place.offset)) = new) ∨
      (entry.goesOn = true ∧ rule.mayEnd = true ∧ new = ⟨entry.place, false⟩) ∨
      (entry.goesOn = false ∧ new = entry) := by
    intro new
    cases entry.goesOn <;> cases rule.mayEnd <;> cases rule.greedy <;> simp [or_comm]
  constructor
  · rintro ⟨new, mem, rfl, rfl⟩
    obtain ⟨entry, known, born⟩ := List.mem_flatMap.mp mem
    rcases (listed entry new).mp born with ⟨on, later, reaches, rfl⟩ | ⟨on, ends, rfl⟩ | ⟨off, rfl⟩
    · exact .inl ⟨_, ⟨entry, known, rfl, on⟩, (finds _ (all entry known) _).mp ⟨later, reaches, rfl⟩, rfl⟩
    · exact .inr (.inl ⟨ends, ⟨entry, known, rfl, on⟩, rfl⟩)
    · exact .inr (.inr ⟨⟨new, known, rfl, off⟩, off⟩)
  · rintro (⟨_, ⟨entry, known, rfl, on⟩, related, rfl⟩ | ⟨ends, ⟨entry, known, rfl, on⟩, rfl⟩ |
      ⟨⟨entry, known, rfl, off⟩, rfl⟩)
    · obtain ⟨later, reaches, rfl⟩ := (finds _ (all entry known) _).mpr related
      exact ⟨_, List.mem_flatMap.mpr ⟨entry, known, (listed entry _).mpr (.inl ⟨on, later, reaches, rfl⟩)⟩, rfl, rfl⟩
    · exact ⟨_, List.mem_flatMap.mpr ⟨entry, known, (listed entry _).mpr (.inr (.inl ⟨on, ends, rfl⟩))⟩, rfl, rfl⟩
    · exact ⟨_, List.mem_flatMap.mpr ⟨entry, known, (listed entry _).mpr (.inr (.inr ⟨off, rfl⟩))⟩, rfl, off⟩

theorem spread_eq_self (rule : Turn) {known : Nat → Bool → Prop} (finished : ∀ offset, ¬known offset true) :
    spread rule relation known = known := by
  funext offset goesOn
  cases goesOn <;> simp [spread, finished]

theorem has_turns (finds : Finds line step relation) (leads : LeadsOn line step) (count : Nat) (rule : Turn)
    {reached : List Reached} (all : ∀ entry ∈ reached, place.Reaches line entry.place) :
    Has (turns count rule step reached) = (spread rule relation)^[count] (Has reached) := by
  induction count generalizing reached with
  | zero => rfl
  | succ count ih =>
    rw [turns, Function.iterate_succ_apply]
    split
    · rw [ih (leads.turn rule all), has_turn finds rule fun entry mem => (all entry mem).1]
    · rename_i none
      have finished : ∀ offset, ¬Has reached offset true := by
        rintro offset ⟨entry, mem, _, on⟩
        exact none (List.any_eq_true.mpr ⟨entry, mem, on⟩)
      rw [spread_eq_self rule finished, Function.iterate_fixed (spread_eq_self rule finished)]

def fromAll (known : Nat → Prop) (offset : Nat) (goesOn : Bool) : Prop :=
  known offset ∧ goesOn = true

-- Required turns all go on, and reach what as many steps reach.
theorem spread_required (greedy : Bool) (known : Nat → Prop) (count : Nat) :
    (spread ⟨false, greedy, false⟩ relation)^[count] (fromAll known) =
      fromAll fun offset => ∃ start, known start ∧ Times relation count start offset := by
  induction count with
  | zero => simp [Times.zero_iff]
  | succ count ih =>
    rw [Function.iterate_succ_apply', ih]
    funext offset goesOn
    apply propext
    constructor
    · rintro (⟨former, ⟨⟨start, begins, steps⟩, _⟩, last, rfl⟩ | ⟨ends, _⟩ | ⟨⟨_, off⟩, _⟩)
      · exact ⟨⟨start, begins, .more steps last⟩, rfl⟩
      · cases ends
      · cases off
    · rintro ⟨⟨start, begins, steps⟩, rfl⟩
      obtain ⟨former, steps, last⟩ := Times.succ_iff.mp steps
      exact .inl ⟨former, ⟨⟨start, begins, steps⟩, rfl⟩, last, rfl⟩

/-- Turns that may end go on from what as many steps reach, and end where fewer steps led. -/
theorem spread_limited (greedy : Bool) (known : Nat → Prop) (count : Nat) (offset : Nat) (goesOn : Bool) :
    (spread ⟨true, greedy, false⟩ relation)^[count] (fromAll known) offset goesOn ↔
      ∃ turns, (if goesOn then turns = count else turns < count) ∧
        ∃ start, known start ∧ Times relation turns start offset := by
  induction count generalizing offset goesOn with
  | zero => cases goesOn <;> simp [fromAll, Times.zero_iff]
  | succ count ih =>
    rw [Function.iterate_succ_apply']
    simp only [spread, ih]
    cases goesOn with
    | true =>
      simp only [Bool.false_and, Bool.not_false, reduceIte, Times.succ_iff, exists_eq_left]
      constructor
      · rintro (⟨former, ⟨start, begins, steps⟩, last, _⟩ | ⟨_, _, off⟩ | ⟨_, off⟩)
        · exact ⟨start, begins, former, steps, last⟩
        · cases off
        · cases off
      · rintro ⟨start, begins, former, steps, last⟩
        exact .inl ⟨former, ⟨start, begins, steps⟩, last, trivial⟩
    | false =>
      simp only [reduceIte, Bool.false_eq_true, exists_eq_left]
      constructor
      · rintro (⟨_, _, _, on⟩ | ⟨_, reached, _⟩ | ⟨⟨turns, less, reached⟩, _⟩)
        · cases on
        · exact ⟨count, Nat.lt_succ_self count, reached⟩
        · exact ⟨turns, Nat.lt_succ_of_lt less, reached⟩
      · rintro ⟨turns, less, reached⟩
        rcases Nat.lt_succ_iff_lt_or_eq.mp less with earlier | rfl
        · exact .inr (.inr ⟨⟨turns, earlier, reached⟩, trivial⟩)
        · exact .inr (.inl ⟨trivial, reached, trivial⟩)

-- Whatever the rule, turns reach nothing but what steps reach.
theorem spread_sound (rule : Turn) {known : Nat → Bool → Prop} (reachable : Nat → Prop)
    (closed : ∀ start stop, reachable start → relation start stop → reachable stop)
    (begins : ∀ offset goesOn, known offset goesOn → reachable offset) (count : Nat) :
    ∀ offset goesOn, (spread rule relation)^[count] known offset goesOn → reachable offset := by
  induction count with
  | zero => exact begins
  | succ count ih =>
    intro offset goesOn reached
    rw [Function.iterate_succ_apply'] at reached
    rcases reached with ⟨former, earlier, last, _⟩ | ⟨_, earlier, _⟩ | ⟨earlier, _⟩
    · exact closed former offset (ih former true earlier) last
    · exact ih offset true earlier
    · exact ih offset false earlier

-- What has been reached stays so where the repetition may end.
theorem spread_stays (rule : Turn) (mayEnd : rule.mayEnd = true) {known : Nat → Bool → Prop} {offset : Nat}
    (reached : ∃ goesOn, known offset goesOn) (count : Nat) :
    ∃ goesOn, (spread rule relation)^[count] known offset goesOn := by
  induction count with
  | zero => exact reached
  | succ count ih =>
    obtain ⟨goesOn, earlier⟩ := ih
    rw [Function.iterate_succ_apply']
    cases goesOn with
    | true => exact ⟨false, .inr (.inl ⟨mayEnd, earlier, rfl⟩)⟩
    | false => exact ⟨false, .inr (.inr ⟨earlier, rfl⟩)⟩

def Advances (relation : Nat → Nat → Prop) (start stop : Nat) : Prop :=
  relation start stop ∧ start ≠ stop

theorem spread_advances (rule : Turn) {known : Nat → Bool → Prop} {start offset count : Nat}
    (begins : known start true) (steps : Times (Advances relation) count start offset) :
    (spread rule relation)^[count] known offset true := by
  induction steps with
  | none => exact begins
  | more _ last ih =>
    rw [Function.iterate_succ_apply']
    refine .inl ⟨_, ih begins, last.1, ?_⟩
    simp [Ne.symm last.2]

/-- Steps without progress can be left out, unless there are no others. -/
theorem Times.advances {count start stop : Nat} (steps : Times relation (count + 1) start stop) :
    (start = stop ∧ relation start stop) ∨ ∃ fewer, Times (Advances relation) (fewer + 1) start stop := by
  induction count generalizing stop with
  | zero =>
    obtain ⟨middle, none, last⟩ := succ_iff.mp steps
    cases none
    by_cases same : start = stop
    · exact .inl ⟨same, last⟩
    · exact .inr ⟨0, .more (.none start) ⟨last, same⟩⟩
  | succ count ih =>
    obtain ⟨middle, earlier, last⟩ := succ_iff.mp steps
    by_cases same : middle = stop
    · exact same ▸ ih earlier
    · rcases ih earlier with ⟨rfl, _⟩ | ⟨fewer, others⟩
      · exact .inr ⟨0, .more (.none start) ⟨last, same⟩⟩
      · exact .inr ⟨fewer + 1, .more others ⟨last, same⟩⟩

theorem Climbs.times (climbs : Climbs line relation) (count : Nat) : Climbs line (Times relation count) := by
  intro start stop inside steps
  induction steps with
  | none => exact ⟨Nat.le_refl _, inside⟩
  | more _ last ih =>
    obtain ⟨further, within⟩ := ih inside
    obtain ⟨up, still⟩ := climbs _ _ within last
    exact ⟨Nat.le_trans further up, still⟩

theorem Climbs.count_le (climbs : Climbs line relation) {count start stop : Nat}
    (steps : Times (Advances relation) count start stop) (inside : start ≤ line.length) :
    start + count ≤ stop ∧ stop ≤ line.length := by
  induction steps with
  | none => exact ⟨Nat.le_refl _, inside⟩
  | more _ last ih =>
    obtain ⟨further, within⟩ := ih inside
    obtain ⟨up, still⟩ := climbs _ _ within last.1
    have progress := last.2
    omega

/-- Steps with progress from an offset that is gone on from, after which the repetition may end. -/
theorem spread_progress (climbs : Climbs line relation) (greedy : Bool)
    {known : Nat → Bool → Prop} {middle stop fewer turns : Nat}
    (begins : known middle true) (inside : middle ≤ line.length)
    (steps : Times (Advances relation) fewer middle stop) (enough : line.length ≤ middle + turns) :
    ∃ goesOn, (spread ⟨true, greedy, true⟩ relation)^[turns] known stop goesOn := by
  have bound := climbs.count_le steps inside
  obtain ⟨more, rfl⟩ := Nat.exists_eq_add_of_le (show fewer ≤ turns by omega)
  rw [Nat.add_comm, Function.iterate_add_apply]
  exact spread_stays _ rfl ⟨true, spread_advances _ begins steps⟩ more

/-- What an unlimited repetition has reached before turns in which it may end: a last required turn without progress
has ended it. -/
def looped (least : Nat) (greedy : Bool) (relation : Nat → Nat → Prop) (start : Nat) : Nat → Bool → Prop :=
  let needed := fromAll fun offset => ∃ first, first = start ∧ Times relation (least - 1) first offset
  if least = 0 then needed else spread ⟨false, greedy, true⟩ relation needed

theorem looped_zero (greedy : Bool) (start : Nat) : looped 0 greedy relation start start true :=
  ⟨⟨start, rfl, .none start⟩, rfl⟩

theorem looped_succ (least : Nat) (greedy : Bool) (start offset : Nat) (goesOn : Bool) :
    looped (least + 1) greedy relation start offset goesOn ↔
      ∃ former, Times relation least start former ∧ relation former offset ∧ goesOn = !(offset == former) := by
  constructor
  · rintro (⟨former, ⟨⟨_, rfl, steps⟩, _⟩, last, turn⟩ | ⟨ends, _⟩ | ⟨⟨_, off⟩, _⟩)
    · exact ⟨former, steps, last, turn⟩
    · cases ends
    · cases off
  · rintro ⟨former, steps, last, turn⟩
    exact .inl ⟨former, ⟨⟨start, rfl, steps⟩, rfl⟩, last, turn⟩

theorem spread_looped_sound (least : Nat) (greedy : Bool) (start count : Nat) (stop : Nat) (goesOn : Bool)
    (reached : (spread ⟨true, greedy, true⟩ relation)^[count] (looped least greedy relation start) stop goesOn) :
    ∃ count, least ≤ count ∧ Times relation count start stop := by
  refine spread_sound _ (fun stop => ∃ count, least ≤ count ∧ Times relation count start stop) ?_ ?_ count stop goesOn
    reached
  · rintro middle stop ⟨count, le, steps⟩ last
    exact ⟨count + 1, Nat.le_succ_of_le le, .more steps last⟩
  · intro offset goesOn first
    cases least with
    | zero =>
      obtain ⟨⟨_, rfl, steps⟩, _⟩ := first
      exact ⟨0, Nat.le_refl 0, steps⟩
    | succ least =>
      obtain ⟨former, steps, last, _⟩ := (looped_succ ..).mp first
      exact ⟨least + 1, Nat.le_refl _, .more steps last⟩

/-- An unlimited repetition that ends at a turn without progress still reaches all that steps reach. -/
theorem spread_looped_complete (climbs : Climbs line relation) (least : Nat) (greedy : Bool)
    {start count stop : Nat} (inside : start ≤ line.length) (le : least ≤ count)
    (steps : Times relation count start stop) {turns : Nat} (enough : line.length ≤ start + turns) :
    ∃ goesOn, (spread ⟨true, greedy, true⟩ relation)^[turns] (looped least greedy relation start) stop goesOn := by
  cases least with
  | zero =>
    have begins : looped 0 greedy relation start start true := looped_zero greedy start
    have progress {fewer : Nat} (steps : Times (Advances relation) fewer start stop) :=
      spread_progress climbs greedy begins inside steps enough
    cases count with
    | zero =>
      cases steps
      exact progress (.none start)
    | succ count =>
      rcases steps.advances with ⟨rfl, _⟩ | ⟨fewer, others⟩
      · exact progress (.none start)
      · exact progress others
  | succ least =>
    -- The turns that are required but for one, and the others without those that make no progress.
    obtain ⟨more, rfl⟩ := Nat.exists_eq_add_of_le le
    rw [show least + 1 + more = least + (more + 1) by omega] at steps
    obtain ⟨middle, needed, others⟩ := Times.add_iff.mp steps
    obtain ⟨_, within⟩ := climbs.times least _ _ inside needed
    rcases others.advances with ⟨rfl, last⟩ | ⟨fewer, others⟩
    · exact spread_stays _ rfl ⟨_, (looped_succ ..).mpr ⟨middle, needed, last, rfl⟩⟩ turns
    · rw [Nat.add_comm] at others
      obtain ⟨next, single, others⟩ := Times.add_iff.mp others
      obtain ⟨former, none, first⟩ := Times.succ_iff.mp single
      cases none
      have within := climbs _ _ within first.1
      have starts := climbs.times least _ _ inside needed
      refine spread_progress climbs greedy ((looped_succ ..).mpr ⟨middle, needed, first.1, ?_⟩) within.2 others ?_
      · simp [Ne.symm first.2]
      · omega

theorem has_start (place : Place) : Has [⟨place, true⟩] = fromAll (· = place.offset) := by
  funext offset goesOn
  simp [Has, fromAll, eq_comm]

theorem mem_offset_places (reached : List Reached) (stop : Nat) :
    (∃ later ∈ distinct (reached.map Reached.place), later.offset = stop) ↔ ∃ goesOn, Has reached stop goesOn := by
  rw [mem_offset_distinct]
  constructor
  · rintro ⟨later, mem, rfl⟩
    obtain ⟨entry, known, rfl⟩ := List.mem_map.mp mem
    exact ⟨entry.goesOn, entry, known, rfl, rfl⟩
  · rintro ⟨_, entry, known, rfl, _⟩
    exact ⟨entry.place, List.mem_map_of_mem known, rfl⟩

-- A repetition reaches what the allowed numbers of steps reach.
theorem Finds.repeatFrom (finds : Finds line step relation) (leads : LeadsOn line step) (least : Nat)
    (most : Option Nat) (greedy : Bool) :
    Finds line (repeatFrom step least most greedy) fun start stop =>
      ∃ count, least ≤ count ∧ (∀ bound, most = some bound → count ≤ max least bound) ∧
        Times relation count start stop := by
  intro place on stop
  have start : ∀ entry ∈ [Reached.mk place true], place.Reaches line entry.place := by
    intro entry mem
    cases List.mem_singleton.mp mem
    exact on.self
  have required (count : Nat) : Has (turns count ⟨false, greedy, false⟩ step [⟨place, true⟩]) =
      fromAll fun offset => ∃ first, first = place.offset ∧ Times relation count first offset := by
    rw [has_turns finds leads _ _ start, has_start, spread_required]
  unfold Pattern.repeatFrom
  rw [mem_offset_places]
  cases most with
  | some most =>
    simp only [has_turns finds leads _ _ (leads.turns _ _ start), required, spread_limited]
    constructor
    · rintro ⟨goesOn, turns, bound, _, ⟨_, rfl, needed⟩, others⟩
      refine ⟨least + turns, Nat.le_add_right _ _, ?_, Times.add_iff.mpr ⟨_, needed, others⟩⟩
      rintro _ ⟨⟩
      split at bound <;> omega
    · rintro ⟨count, le, bound, steps⟩
      obtain ⟨more, rfl⟩ := Nat.exists_eq_add_of_le le
      obtain ⟨middle, needed, others⟩ := Times.add_iff.mp steps
      have within := bound most rfl
      refine ⟨decide (more = most - least), more, ?_, middle, ⟨_, rfl, needed⟩, others⟩
      simp only [decide_eq_true_eq]
      split <;> omega
  | none =>
    have loop : Has (if least = 0 then turns (least - 1) ⟨false, greedy, false⟩ step [⟨place, true⟩]
        else turn ⟨false, greedy, true⟩ step (turns (least - 1) ⟨false, greedy, false⟩ step [⟨place, true⟩])) =
        looped least greedy relation place.offset := by
      unfold looped
      split
      · exact required _
      · rw [has_turn finds _ fun entry mem => (leads.turns _ _ start entry mem).1, required]
    have all := leads.looped start least greedy
    simp only [has_turns finds leads _ _ all, loop]
    have enough : line.length ≤ place.offset + (place.after.length + 1) := by
      have := on.length_after
      omega
    constructor
    · rintro ⟨goesOn, reached⟩
      obtain ⟨count, le, steps⟩ := spread_looped_sound _ _ _ _ _ _ reached
      exact ⟨count, le, fun _ limited => (nomatch limited), steps⟩
    · rintro ⟨count, le, _, steps⟩
      exact spread_looped_complete (finds.climbs leads) least greedy on.offset_le le steps enough

/-- From every place of its line, matches of a pattern end exactly where the pattern matches. -/
theorem finds_ends (line : List Char) (pattern : Pattern) : Finds line (ends pattern) (Matches line pattern) := by
  induction pattern with
  | empty =>
    intro place _ stop
    simp [ends, Matches]
  | charIn set =>
    intro place on stop
    have head := congrArg List.head? on.after_eq
    rw [List.head?_drop] at head
    simp only [ends, Matches, ← head]
    cases rest : place.after with
    | nil => simp
    | cons char rest =>
      simp only [List.head?_cons, Option.any_some, Option.some.injEq, exists_eq_left']
      by_cases has : set.contains char = true
      · simp [Place.next?, rest, has, eq_comm (a := stop)]
      · simp [has]
  | assertion condition =>
    intro place on stop
    simp only [ends, Matches, ← on.before_eq, ← on.after_eq]
    split <;> simp [*]
  | sequence first second ihFirst ihSecond =>
    intro place on stop
    simp only [ends, Matches, mem_offset_distinct, List.mem_flatMap]
    constructor
    · rintro ⟨later, ⟨middle, found, next⟩, rfl⟩
      have within := (ends_leadsOn line first place on middle found).1
      exact ⟨middle.offset, (ihFirst place on _).mp ⟨middle, found, rfl⟩, (ihSecond middle within _).mp ⟨later, next, rfl⟩⟩
    · rintro ⟨_, earlier, last⟩
      obtain ⟨middle, found, rfl⟩ := (ihFirst place on _).mpr earlier
      have within := (ends_leadsOn line first place on middle found).1
      obtain ⟨later, next, rfl⟩ := (ihSecond middle within _).mpr last
      exact ⟨later, ⟨middle, found, next⟩, rfl⟩
  | either first second ihFirst ihSecond =>
    intro place on stop
    simp only [ends, Matches, mem_offset_distinct, List.mem_append, ← ihFirst place on, ← ihSecond place on, or_and_right,
      exists_or]
  | repeated body least most greedy ih => exact ih.repeatFrom (ends_leadsOn line body) least most greedy
  | marked body ih =>
    intro place on stop
    simp [ends, Matches, ← ih place on]

def Occurs (line : List Char) (pattern : Pattern) : Prop :=
  ∃ start stop, start ≤ line.length ∧ Matches line pattern start stop

theorem searchFrom_eq_none {pattern : Pattern} {before after : List Char} {offset : Nat}
    (counted : offset = before.length) (none : searchFrom pattern before after offset = none) {start : Nat}
    (later : offset ≤ start) (inside : start ≤ offset + after.length) (stop : Nat) :
    ¬Matches (before.reverse ++ after) pattern start stop := by
  induction after generalizing before offset with
  | nil =>
    unfold searchFrom at none
    split at none
    · cases none
    · rename_i nowhere
      obtain rfl : start = offset := Nat.le_antisymm inside later
      intro matched
      obtain ⟨place, found, _⟩ := (finds_ends _ pattern _ (Place.on_unmarked counted) stop).mpr matched
      exact List.not_mem_nil (nowhere ▸ found)
  | cons char rest ih =>
    unfold searchFrom at none
    split at none
    · cases none
    · rename_i nowhere
      rcases Nat.eq_or_lt_of_le later with rfl | beyond
      · intro matched
        obtain ⟨place, found, _⟩ := (finds_ends _ pattern _ (Place.on_unmarked counted) stop).mpr matched
        exact List.not_mem_nil (nowhere ▸ found)
      · have next := ih (by rw [counted, List.length_cons]) none beyond (by simp at inside; omega)
        simpa using next

theorem search_isSome_iff (pattern : Pattern) (line : List Char) :
    (search pattern line).isSome = true ↔ Occurs line pattern := by
  cases found : search pattern line with
  | none =>
    refine iff_of_false Bool.false_ne_true ?_
    rintro ⟨start, stop, inside, matched⟩
    exact searchFrom_eq_none rfl found (Nat.zero_le start) (by simpa using inside) stop matched
  | some stop =>
    refine iff_of_true rfl ?_
    obtain ⟨start, on, _, mem⟩ := exists_start_of_searchFrom rfl found
    exact ⟨start.offset, stop.offset, on.offset_le, (finds_ends _ pattern start on _).mp ⟨stop, mem, rfl⟩⟩

end

end BslLint.Pattern
