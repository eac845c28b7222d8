import BslLint.Pattern.Reader
import BslLint.Proofs.Text.Space

/-! Patterns read inside a group. A reader that gets to the end of a text by itself reads the same where a closing
parenthesis follows, and stops before it. Only a comment that the text does not end goes on into what follows, and
then it swallows all of it. -/

set_option autoImplicit false

namespace BslLint.Pattern

open Reader

/-- Text that closes a group. It stands on one line, so that no comment ends in it. -/
structure Closes (suffix : List Char) : Prop where
  starts : suffix.head? = some ')'
  oneLine : '\n' ∉ suffix

def Continues (suffix text longer : List Char) : Prop :=
  longer = text ∨ longer = text ++ suffix

theorem Continues.head? {suffix text longer : List Char} (goesOn : Continues suffix text longer)
    (closes : Closes suffix) : longer.head? = text.head? ∨ (text.head? = none ∧ longer.head? = some ')') := by
  rcases goesOn with rfl | rfl
  · exact .inl rfl
  · cases text with
    | nil => exact .inr ⟨rfl, closes.starts⟩
    | cons char text => exact .inl rfl

/-- As many steps as a text has characters are not more than the longer text has. -/
theorem Continues.length_le {suffix text longer : List Char} (goesOn : Continues suffix text longer) :
    text.length + 1 ≤ longer.length + 1 := by
  rcases goesOn with rfl | rfl
  · exact Nat.le_refl _
  · simp

namespace Reader

variable {Value Other : Type} {suffix : List Char} {sort : List Char → Prop}

/-- What one reader reads of a text of some sort, another reads of the text with a suffix behind it, and leaves the
suffix or nothing more than the one. -/
def Agrees (suffix : List Char) (sort : List Char → Prop) (reader longer : Reader Value) : Prop :=
  ∀ reading, sort reading.text → ∀ text, Continues suffix reading.text text → ∀ value rest,
    reader reading = some (value, rest) →
      ∃ left, Continues suffix rest.text left ∧
        longer { reading with text } = some (value, { rest with text := left })

abbrev Any (_ : List Char) : Prop := True

abbrev Further (text : List Char) : Prop := text ≠ []

namespace Agrees

variable {reader longer : Reader Value}

theorem weaken (agrees : Agrees suffix Any reader longer) : Agrees suffix sort reader longer :=
  fun reading _ => agrees reading trivial

theorem bindLeft {next longerNext : Value → Reader Other} {left : List Char → Prop}
    (first : Agrees suffix sort reader longer)
    (leaves : ∀ reading value rest, sort reading.text → reader reading = some (value, rest) → left rest.text)
    (agree : ∀ value, Agrees suffix left (next value) (longerNext value)) :
    Agrees suffix sort (reader >>= next) (longer >>= longerNext) := by
  intro reading here text continues value rest read
  obtain ⟨⟨middle, state⟩, early, late⟩ := Option.bind_eq_some_iff.mp read
  obtain ⟨more, goesOn, firstRead⟩ := first reading here text continues middle state early
  obtain ⟨last, goesOn, secondRead⟩ :=
    agree middle state (leaves reading middle state here early) more goesOn value rest late
  exact ⟨last, goesOn, Option.bind_eq_some_iff.mpr ⟨_, firstRead, secondRead⟩⟩

theorem bind {next longerNext : Value → Reader Other} (first : Agrees suffix sort reader longer)
    (agree : ∀ value, Agrees suffix Any (next value) (longerNext value)) :
    Agrees suffix sort (reader >>= next) (longer >>= longerNext) :=
  bindLeft first (fun _ _ _ _ _ => trivial) agree

theorem pure (value : Value) : Agrees suffix sort (Pure.pure value) (Pure.pure value) := by
  intro reading _ text continues _ _ read
  cases read
  exact ⟨text, continues, rfl⟩

theorem fail : Agrees suffix sort Reader.fail longer := by
  intro reading _ text _ value rest read
  cases read

theorem fail_bind (next : Other → Reader Value) : Agrees suffix sort (Reader.fail >>= next) longer := by
  intro reading _ text _ value rest read
  cases read

theorem ite {condition : Prop} [Decidable condition] {other longerOther : Reader Value}
    (left : Agrees suffix sort reader longer) (right : Agrees suffix sort other longerOther) :
    Agrees suffix sort (if condition then reader else other) (if condition then longer else longerOther) := by
  split
  · exact left
  · exact right

theorem flags {next longer : Flags → Reader Value} (agree : ∀ flags, Agrees suffix sort (next flags) (longer flags)) :
    Agrees suffix sort (Reader.flags >>= next) (Reader.flags >>= longer) :=
  fun reading => agree reading.flags reading

theorem setFlags (flags : Flags) : Agrees suffix sort (Reader.setFlags flags) (Reader.setFlags flags) := by
  intro reading _ text continues value rest read
  cases read
  exact ⟨text, continues, rfl⟩

theorem setText {text longerText : List Char} (goesOn : Continues suffix text longerText) :
    Agrees suffix sort (Reader.setText text) (Reader.setText longerText) := by
  intro reading _ _ _ value rest read
  cases read
  exact ⟨longerText, goesOn, rfl⟩

theorem narrow {narrower : List Char → Prop} (agrees : Agrees suffix sort reader longer)
    (within : ∀ text, narrower text → sort text) : Agrees suffix narrower reader longer :=
  fun reading here => agrees reading (within _ here)

/-- A reader that goes on from its own text, with or without the suffix behind it. -/
theorem getSame {next longer : Reading → Reader Value}
    (agree : ∀ reading, sort reading.text → ∀ text, Continues suffix reading.text text →
      Agrees suffix (· = reading.text) (next reading) (longer { reading with text })) :
    Agrees suffix sort (MonadState.get >>= next) (MonadState.get >>= longer) :=
  fun reading here text goesOn => agree reading here text goesOn reading rfl text goesOn

theorem get {next longer : Reading → Reader Value}
    (agree : ∀ reading, sort reading.text → ∀ text, Continues suffix reading.text text →
      Agrees suffix sort (next reading) (longer { reading with text })) :
    Agrees suffix sort (MonadState.get >>= next) (MonadState.get >>= longer) :=
  getSame fun reading here text goesOn => (agree reading here text goesOn).narrow fun _ same => same ▸ here

theorem pass : Agrees suffix Further Reader.pass Reader.pass := by
  rintro ⟨text, flags, names, captured⟩ some _ (rfl | rfl) value rest read
  · cases read
    exact ⟨_, .inl rfl, rfl⟩
  · cases read
    cases text with
    | nil => exact absurd rfl some
    | cons char text => exact ⟨_, .inr rfl, rfl⟩

theorem peekSame {next longer : Char → Reader Value}
    (agree : ∀ char, Agrees suffix (fun text => sort text ∧ Further text) (next char) (longer char)) :
    Agrees suffix sort (Reader.peek >>= next) (Reader.peek >>= longer) := by
  rintro ⟨text, flags, names, captured⟩ here long goesOn value rest read
  cases text with
  | nil => cases read
  | cons char text =>
    have after := agree char _ ⟨here, List.cons_ne_nil char text⟩ long goesOn value rest read
    rcases goesOn with rfl | rfl
    · exact after
    · exact after

theorem peek {next longer : Char → Reader Value} (agree : ∀ char, Agrees suffix Further (next char) (longer char)) :
    Agrees suffix sort (Reader.peek >>= next) (Reader.peek >>= longer) :=
  peekSame fun char => (agree char).narrow fun _ both => both.2

/-- A reader that looks whether something follows takes a closing parenthesis for the end. -/
theorem peek? (closes : Closes suffix) {next longer : Option Char → Reader Value}
    (some : ∀ char, Agrees suffix Further (next (some char)) (longer (some char)))
    (none : Agrees suffix Any (next none) (longer none)) (closing : longer (Option.some ')') = longer Option.none) :
    Agrees suffix sort (Reader.peek? >>= next) (Reader.peek? >>= longer) := by
  rintro ⟨text, flags, names, captured⟩ _ long goesOn value rest read
  cases text with
  | nil =>
    have after := none _ trivial long goesOn value rest read
    rcases goesOn with rfl | rfl
    · exact after
    · rw [← closing, ← closes.starts] at after
      exact after
  | cons char text =>
    have after := some char _ (List.cons_ne_nil char text) long goesOn value rest read
    rcases goesOn with rfl | rfl
    · exact after
    · exact after

theorem expect (char : Char) : Agrees suffix sort (Reader.expect char) (Reader.expect char) :=
  peek fun _ => ite pass fail

end Agrees

theorem trimStart_append_closing (closes : Closes suffix) (text : List Char) :
    Text.trimStart (text ++ suffix) = Text.trimStart text ++ suffix := by
  induction text with
  | nil =>
    obtain ⟨rest, rfl⟩ := List.head?_eq_some_iff.mp closes.starts
    rfl
  | cons char text ih =>
    simp only [Text.trimStart, List.cons_append, List.dropWhile_cons] at ih ⊢
    split
    · exact ih
    · rfl

theorem dropComment_append {suffix : List Char} (closes : Closes suffix) (text : List Char) :
    ((text ++ suffix).dropWhile (· != '\n')).drop 1 = (text.dropWhile (· != '\n')).drop 1 ++ suffix ∨
      (((text ++ suffix).dropWhile (· != '\n')).drop 1 = [] ∧ (text.dropWhile (· != '\n')).drop 1 = []) := by
  rw [List.dropWhile_append]
  cases ended : text.dropWhile (· != '\n') with
  | nil =>
    have swallowed : suffix.dropWhile (· != '\n') = [] := by
      apply List.dropWhile_eq_nil_iff.mpr
      intro char mem
      exact bne_iff_ne.mpr fun lineEnd => closes.oneLine (lineEnd ▸ mem)
    simp [swallowed]
  | cons lineEnd rest => simp

theorem length_dropComment_lt {text rest : List Char} {fuel : Nat} (trimmed : Text.trimStart text = '#' :: rest)
    (enough : text.length < fuel + 1) : ((rest.dropWhile (· != '\n')).drop 1).length < fuel := by
  have kept : rest.length + 1 ≤ text.length := by
    have := (List.dropWhile_suffix Text.isSpace (l := text)).length_le
    rw [← Text.trimStart, trimmed] at this
    exact this
  have dropped := (List.dropWhile_suffix (· != '\n') (l := rest)).length_le
  rw [List.length_drop]
  omega

theorem afterSpace_nil (fuel : Nat) : afterSpace fuel [] = [] := by
  cases fuel <;> rfl

theorem afterSpace_comment {text rest : List Char} (fuel : Nat) (trimmed : Text.trimStart text = '#' :: rest) :
    afterSpace (fuel + 1) text = afterSpace fuel ((rest.dropWhile (· != '\n')).drop 1) := by
  simp only [afterSpace, trimmed]

theorem afterSpace_other {text : List Char} (fuel : Nat) (other : (Text.trimStart text).head? ≠ some '#') :
    afterSpace (fuel + 1) text = Text.trimStart text := by
  unfold afterSpace
  split
  · rename_i rest trimmed
    rw [trimmed] at other
    exact absurd rfl other
  · rfl

theorem afterSpace_continues (closes : Closes suffix) {few many : Nat} {text long : List Char}
    (goesOn : Continues suffix text long) (enough : text.length < few) (plenty : long.length < many) :
    Continues suffix (afterSpace few text) (afterSpace many long) := by
  induction few generalizing text long many with
  | zero => exact absurd enough (Nat.not_lt_zero _)
  | succ few ih =>
    obtain ⟨many, rfl⟩ := Nat.exists_eq_add_of_le' (Nat.zero_lt_of_lt plenty)
    have longTrimmed : Continues suffix (Text.trimStart text) (Text.trimStart long) := by
      rcases goesOn with rfl | rfl
      · exact .inl rfl
      · exact .inr (trimStart_append_closing closes text)
    by_cases comment : ∃ rest, Text.trimStart text = '#' :: rest
    · obtain ⟨rest, trimmed⟩ := comment
      rw [afterSpace_comment few trimmed]
      rcases longTrimmed with same | more
      · have trimmedLong := same.trans trimmed
        rw [afterSpace_comment many trimmedLong]
        exact ih (.inl rfl) (length_dropComment_lt trimmed enough) (length_dropComment_lt trimmedLong plenty)
      · rw [trimmed] at more
        rw [afterSpace_comment many more]
        rcases dropComment_append closes rest with further | ⟨swallowed, none⟩
        · exact ih (.inr further) (length_dropComment_lt trimmed enough) (length_dropComment_lt more plenty)
        · rw [List.cons_append] at more
          erw [swallowed, none, afterSpace_nil, afterSpace_nil]
          exact .inl rfl
    · have other : (Text.trimStart text).head? ≠ some '#' := fun starts =>
        comment ((List.head?_eq_some_iff.mp starts).imp fun _ => id)
      have otherLong : (Text.trimStart long).head? ≠ some '#' := by
        rcases longTrimmed with same | more
        · rwa [same]
        · rw [more, List.head?_append]
          cases starts : (Text.trimStart text).head? with
          | none => simp [closes.starts]
          | some first => simpa [starts] using other
      rw [afterSpace_other few other, afterSpace_other many otherLong]
      exact longTrimmed

/-- A text without a closing parenthesis does not begin at the end of a text and go on behind it. -/
theorem stripPrefix?_append {expected : List Char} (closes : Closes suffix) (unclosed : ')' ∉ expected) (text : List Char) :
    Text.stripPrefix? expected (text ++ suffix) = (Text.stripPrefix? expected text).map (· ++ suffix) := by
  apply Option.ext
  intro rest
  rw [Text.stripPrefix?_eq_some_iff, Option.map_eq_some_iff]
  constructor
  · intro split
    rcases List.append_eq_append_iff.mp split with ⟨between, whole, after⟩ | ⟨between, whole, after⟩
    · cases between with
      | nil => exact ⟨[], (Text.stripPrefix?_eq_some_iff ..).mpr (by simpa using whole.symm), after⟩
      | cons first between =>
        have starts := closes.starts
        rw [after, List.cons_append, List.head?_cons, Option.some.injEq] at starts
        exact absurd (by simp [whole, starts]) unclosed
    · exact ⟨between, (Text.stripPrefix?_eq_some_iff ..).mpr whole, after.symm⟩
  · rintro ⟨left, stripped, rfl⟩
    rw [(Text.stripPrefix?_eq_some_iff ..).mp stripped, List.append_assoc]

namespace Agrees

variable (closes : Closes suffix)
include closes

theorem passSpace : Agrees suffix sort Reader.passSpace Reader.passSpace := by
  apply flags
  intro flags
  apply ite
  · apply get
    intro reading _ text goesOn
    exact setText (afterSpace_continues closes goesOn (Nat.lt_succ_self _) (Nat.lt_succ_self _))
  · exact pure ()

theorem passWithSpace : Agrees suffix Further Reader.passWithSpace Reader.passWithSpace :=
  pass.bind fun _ => passSpace closes

theorem passText? {expected : String} (unclosed : ')' ∉ expected.toList) :
    Agrees suffix sort (Reader.passText? expected) (Reader.passText? expected) := by
  apply get
  intro reading _ text goesOn
  dsimp only
  rcases goesOn with same | more
  · rw [same]
    cases Text.stripPrefix? expected.toList reading.text with
    | none => exact pure false
    | some rest => exact (setText (.inl rfl)).bind fun _ => pure true
  · rw [more, stripPrefix?_append closes unclosed]
    cases Text.stripPrefix? expected.toList reading.text with
    | none => exact pure false
    | some rest => exact (setText (.inr rfl)).bind fun _ => pure true

theorem peekBeyond? {next longer : Option Char → Reader Value}
    (agree : ∀ beyond, Agrees suffix Further (next beyond) (longer beyond))
    (closing : longer (some ')') = longer none) :
    Agrees suffix Further (Reader.peekBeyond? >>= next) (Reader.peekBeyond? >>= longer) := by
  rintro ⟨text, flags, names, captured⟩ some long goesOn value rest read
  have tails : Continues suffix text.tail long.tail := by
    rcases goesOn with rfl | rfl
    · exact .inl rfl
    · exact .inr (List.tail_append_of_ne_nil some)
  have beyond : Continues suffix (if flags.spaced then afterSpace (text.tail.length + 1) text.tail else text.tail)
      (if flags.spaced then afterSpace (long.tail.length + 1) long.tail else long.tail) := by
    split
    · exact afterSpace_continues closes tails (Nat.lt_succ_self _) (Nat.lt_succ_self _)
    · exact tails
  have looks (next : Option Char → Reader Value) (text : List Char) :
      (Reader.peekBeyond? >>= next) ⟨text, flags, names, captured⟩ =
        next (if flags.spaced then afterSpace (text.tail.length + 1) text.tail else text.tail).head?
          ⟨text, flags, names, captured⟩ := by
    obtain ⟨_, _, _, _, _, _, spaced⟩ := flags
    cases spaced <;> rfl
  rw [looks] at read
  obtain ⟨left, more, found⟩ := agree _ ⟨text, flags, names, captured⟩ some long goesOn value rest read
  refine ⟨left, more, ?_⟩
  dsimp only at found ⊢
  rw [looks, ← found]
  rcases beyond.head? closes with same | ⟨none, paren⟩
  · rw [same]
  · rw [none, paren, closing]

end Agrees

end Reader

abbrev Steady {Value : Type} (suffix : List Char) (sort : List Char → Prop) (reader : Reader Value) : Prop :=
  Agrees suffix sort reader reader

end BslLint.Pattern
