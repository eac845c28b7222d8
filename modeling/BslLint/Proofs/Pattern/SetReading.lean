import BslLint.Proofs.Pattern.Reading

/-! The readers of escapes and of sets in brackets read the same inside a group. The sort of a text tells which of them
may assume that something is left to read. -/

set_option autoImplicit false

namespace BslLint.Pattern

open Reader

section

variable {suffix : List Char} {sort : List Char → Prop}

theorem foldedSet_steady (negated : Bool) (set : CharSet) : Steady suffix sort (foldedSet negated set) := by
  apply Agrees.flags
  intro flags
  apply Agrees.ite
  · exact .ite (.pure _) .fail
  · exact .pure _

theorem classSet_steady (letter : Char) : Steady suffix sort (classSet letter) := by
  have inForce (set : CharSet × CharSet) : Steady suffix sort (do
      if (← flags).unicode then return if letter.isUpper then .complement set.1 else set.1
      else if letter.isUpper then fail
      else return set.2) := by
    apply Agrees.flags
    intro flags
    apply Agrees.ite
    · exact .pure _
    · exact .ite .fail (.pure _)
  unfold classSet
  dsimp only
  split
  · exact inForce _
  · exact inForce _
  · exact inForce _
  · exact .fail_bind _

theorem boundary_steady (kind : Boundary) : Steady suffix sort (boundary kind) :=
  .flags fun _ => .pure _

theorem literalSet_steady (char : Char) (byte : Bool) : Steady suffix sort (literalSet char byte) := by
  apply Agrees.flags
  intro flags
  apply Agrees.ite
  · exact .fail
  apply Agrees.ite
  · exact .pure _
  · exact .ite (.pure _) (.pure _)

theorem rangeEnd_steady (atom : Atom) : Steady suffix sort (rangeEnd atom) := by
  cases atom with
  | literal char byte =>
    apply Agrees.flags
    intro flags
    exact .ite .fail (.pure _)
  | set set => exact .fail
  | assertion condition => exact .fail

theorem required_steady (count : Option Nat) : Steady suffix sort (required count) := by
  cases count with
  | none => exact .fail
  | some count => exact .pure _

theorem repeatLast_steady (parts : List Part) (least : Nat) (most : Option Nat) (lazy : Bool) :
    Steady suffix sort (repeatLast parts least most lazy) := by
  unfold repeatLast
  split
  · exact .flags fun _ => .pure _
  · exact .fail

theorem capture_steady : Steady suffix sort capture := by
  intro reading _ text goesOn value rest read
  cases read
  exact ⟨text, goesOn, rfl⟩

end

section

variable {suffix : List Char} (closes : Closes suffix)
include closes

theorem readFixedDigits_steady (count : Nat) : Steady suffix Any (readFixedDigits count) := by
  induction count with
  | zero => exact .pure []
  | succ count ih =>
    apply Agrees.peek
    intro digit
    apply Agrees.ite
    · exact (Agrees.passWithSpace closes).bind fun _ => ih.bind fun digits => .pure _
    · exact .fail

theorem readBracedDigits_agrees {few many : Nat} (le : few ≤ many) :
    Agrees suffix Any (readBracedDigits few) (readBracedDigits many) := by
  induction few generalizing many with
  | zero => exact .fail
  | succ few ih =>
    obtain ⟨many, rfl⟩ := Nat.exists_eq_add_of_le' (Nat.zero_lt_of_lt le)
    apply Agrees.peek
    intro digit
    apply Agrees.ite
    · exact (Agrees.passWithSpace closes).bind fun _ => .pure []
    apply Agrees.ite
    · exact (Agrees.passWithSpace closes).bind fun _ =>
        (ih (Nat.le_of_succ_le_succ le)).bind fun digits => .pure _
    · exact .fail

theorem readNumbered_steady (count : Nat) : Steady suffix Further (readNumbered count) := by
  apply (Agrees.passWithSpace closes).bind
  intro _
  apply Agrees.peek
  intro mark
  apply Agrees.ite
  · apply (Agrees.passWithSpace closes).bind
    intro _
    apply Agrees.get
    intro reading _ text goesOn
    apply (readBracedDigits_agrees closes goesOn.length_le).bind
    intro digits
    apply Agrees.ite
    · exact .fail_bind _
    cases scalar? digits with
    | none => exact .fail
    | some char => exact .pure _
  · apply (readFixedDigits_steady closes count).weaken.bind
    intro digits
    cases scalar? digits with
    | none => exact .fail
    | some char => exact .pure _

theorem readBracedName_agrees {few many : Nat} (le : few ≤ many) :
    Agrees suffix Any (readBracedName few) (readBracedName many) := by
  induction few generalizing many with
  | zero => exact .fail
  | succ few ih =>
    obtain ⟨many, rfl⟩ := Nat.exists_eq_add_of_le' (Nat.zero_lt_of_lt le)
    apply Agrees.peek
    intro char
    apply Agrees.ite
    · exact Agrees.pass.bind fun _ => .pure []
    · exact (Agrees.passWithSpace closes).bind fun _ =>
        (ih (Nat.le_of_succ_le_succ le)).bind fun name => .pure _

omit closes in
def namedProperty (negated : Bool) (name : List Char) : Reader Atom := do
  if !(← flags).unicode then fail
  match propertySet? name with
  | some set => return .set (← foldedSet negated set)
  | none => fail

omit closes in
theorem namedProperty_steady (negated : Bool) (name : List Char) : Steady suffix Any (namedProperty negated name) := by
  apply Agrees.flags
  intro flags
  apply Agrees.ite
  · exact .fail_bind _
  cases propertySet? name with
  | none => exact .fail
  | some set => exact (foldedSet_steady negated set).bind fun set => .pure _

theorem readProperty_steady (negated : Bool) : Steady suffix Further (readProperty negated) := by
  have named (name : List Char) : Steady suffix Any (namedProperty negated name) := namedProperty_steady negated name
  apply (Agrees.passWithSpace closes).bind
  intro _
  apply Agrees.peek
  intro first
  apply Agrees.ite
  · apply (Agrees.passWithSpace closes).bind
    intro _
    apply Agrees.get
    intro reading _ text goesOn
    exact (readBracedName_agrees closes goesOn.length_le).bind named
  apply Agrees.ite
  · exact .fail_bind _
  · exact (Agrees.passWithSpace closes).bind fun _ => named [first]

theorem readBoundaryName_agrees {few many : Nat} (le : few ≤ many) :
    Agrees suffix Any (readBoundaryName few) (readBoundaryName many) := by
  induction few generalizing many with
  | zero => exact .fail
  | succ few ih =>
    obtain ⟨many, rfl⟩ := Nat.exists_eq_add_of_le' (Nat.zero_lt_of_lt le)
    apply Agrees.peek? closes
    · intro char
      apply Agrees.ite
      · exact (Agrees.passWithSpace closes).bind fun _ =>
          (ih (Nat.le_of_succ_le_succ le)).bind fun name => .pure _
      · exact .pure []
    · exact .pure []
    · rfl

theorem readBoundary_steady : Steady suffix Any readBoundary := by
  apply Agrees.peek? closes
  · intro char
    apply Agrees.ite
    · exact boundary_steady .any
    apply Agrees.get
    intro start _ text goesOn
    apply (Agrees.passWithSpace closes).bind
    intro _
    apply Agrees.peek
    intro first
    apply Agrees.ite
    · exact (Agrees.setText goesOn).bind fun _ => boundary_steady .any
    apply Agrees.get
    intro reading _ text goesOn
    apply (readBoundaryName_agrees closes goesOn.length_le).weaken.bind
    intro name
    apply (Agrees.expect '}').bind
    intro _
    split
    · exact boundary_steady .start
    · exact boundary_steady .stop
    · exact boundary_steady .startHalf
    · exact boundary_steady .stopHalf
    · exact .fail
  · exact boundary_steady .any
  · rfl

theorem readEscape_steady : Steady suffix Further readEscape := by
  apply Agrees.pass.bind
  intro _
  apply Agrees.peek
  intro mark
  split
  · exact readNumbered_steady closes 2
  · exact readNumbered_steady closes 4
  · exact readNumbered_steady closes 8
  · exact readProperty_steady closes false
  · exact readProperty_steady closes true
  apply Agrees.pass.bind
  intro _
  apply Agrees.ite
  · exact (classSet_steady mark).bind fun set => .pure _
  apply Agrees.ite
  · exact .pure _
  split
  iterate 6 exact .pure _
  · exact .pure _
  · exact .pure _
  · exact readBoundary_steady closes
  · exact boundary_steady .inside
  · exact boundary_steady .start
  · exact boundary_steady .stop
  · exact .fail

theorem readMember_steady {sort : List Char → Prop} : Steady suffix sort readMember := by
  apply Agrees.peek
  intro char
  apply Agrees.ite
  · exact readEscape_steady closes
  · exact Agrees.pass.bind fun _ => .pure _

theorem readRange_steady {sort : List Char → Prop} : Steady suffix sort readRange := by
  apply (readMember_steady closes).bind
  intro first
  apply (Agrees.passSpace closes).bind
  intro _
  apply Agrees.peek
  intro next
  apply Agrees.peekBeyond? closes
  · intro beyond
    apply Agrees.ite
    · cases first with
      | literal char byte => exact (rangeEnd_steady _).bind fun char => .pure _
      | set set => exact .pure set
      | assertion condition => exact .fail
    · apply (Agrees.passWithSpace closes).bind
      intro _
      apply (readMember_steady closes).bind
      intro last
      apply (rangeEnd_steady first).bind
      intro first
      apply (rangeEnd_steady last).bind
      intro last
      exact .ite (.pure _) .fail
  · simp

omit closes in
theorem length_afterSpace_le (fuel : Nat) (text : List Char) : (afterSpace fuel text).length ≤ text.length := by
  induction fuel generalizing text with
  | zero => exact Nat.le_refl _
  | succ fuel ih =>
    unfold afterSpace
    split
    · rename_i rest trimmed
      have shorter := length_dropComment_lt trimmed (Nat.lt_succ_of_lt (Nat.lt_succ_self _))
      exact Nat.le_trans (ih _) (Nat.le_of_lt_succ shorter)
    · exact (List.dropWhile_suffix _).length_le

omit closes in
theorem length_passWithSpace_lt {reading rest : Reading} (some : reading.text ≠ [])
    (passed : passWithSpace reading = Option.some ((), rest)) : rest.text.length < reading.text.length := by
  obtain ⟨text, ⟨_, _, _, _, _, _, spaced⟩, names, captured⟩ := reading
  cases text with
  | nil => exact absurd rfl some
  | cons char text =>
    cases spaced with
    | false =>
      cases passed
      exact Nat.lt_succ_self _
    | true =>
      cases passed
      exact Nat.lt_succ_of_le (length_afterSpace_le _ _)

theorem readHyphens_agrees {few many : Nat} (le : few ≤ many) (members : Members) :
    Agrees suffix (·.length < few) (readHyphens few members) (readHyphens many members) := by
  induction few generalizing many members with
  | zero => exact fun _ short => absurd short (Nat.not_lt_zero _)
  | succ few ih =>
    obtain ⟨many, rfl⟩ := Nat.exists_eq_add_of_le' (Nat.zero_lt_of_lt le)
    apply Agrees.peekSame
    intro char
    apply Agrees.ite
    · have passes : Steady suffix (fun text => text.length < few + 1 ∧ Further text) passWithSpace :=
        (Agrees.passWithSpace closes).narrow fun _ both => both.2
      have shorter (reading : Reading) (value : Unit) (rest : Reading)
          (here : reading.text.length < few + 1 ∧ Further reading.text)
          (passed : passWithSpace reading = some (value, rest)) : rest.text.length < few :=
        Nat.lt_of_lt_of_le (length_passWithSpace_lt here.2 passed) (Nat.le_of_lt_succ here.1)
      exact passes.bindLeft shorter fun _ => ih (Nat.le_of_succ_le_succ le) _
    · exact .pure _

theorem readOpening_steady : Steady suffix Further readOpening := by
  have members (negated : Bool) : Steady suffix Any (do
      let members ← readHyphens ((← get).text.length + 1) .start
      if members.sets.isEmpty ∧ (← peek) = ']' then
        passWithSpace
        discard peek
        return (negated, members.add (.among [']']) 0)
      else
        discard peek
        return (negated, members)) := by
    apply Agrees.getSame
    intro reading _ text goesOn
    apply ((readHyphens_agrees closes goesOn.length_le .start).narrow (by rintro _ rfl; exact Nat.lt_succ_self _)).bind
    intro members
    apply Agrees.peek
    intro char
    apply Agrees.ite
    · apply (Agrees.passWithSpace closes).bind
      intro _
      exact (Agrees.peek fun _ => .pure _).bind fun _ => .pure _
    · exact (Agrees.peek fun _ => .pure _).bind fun _ => .pure _
  apply (Agrees.passWithSpace closes).bind
  intro _
  apply Agrees.peek
  intro first
  apply Agrees.ite
  · exact (Agrees.passWithSpace closes).bind fun _ => members _
  · exact (members _).weaken

omit closes in
theorem isNone_asciiClass? {name : List Char} (paren : ')' ∈ name) : CharSet.asciiClass? (String.ofList name) = none := by
  cases found : CharSet.asciiClass? (String.ofList name) with
  | none => rfl
  | some set =>
    exfalso
    rw [← String.toList_ofList (l := name)] at paren
    generalize String.ofList name = text at found paren
    unfold CharSet.asciiClass? at found
    split at found
    all_goals first | exact absurd paren (by decide) | cases found

omit closes in
def namedClass? (negated : Bool) (text : List Char) : Option (Bool × CharSet × List Char) := do
  let set ← CharSet.asciiClass? (String.ofList (text.takeWhile (· != ':')))
  let rest ← Text.stripPrefix? [':', ']'] (text.dropWhile (· != ':'))
  return (negated, set, rest)

theorem namedClass?_append (negated : Bool) (text : List Char) :
    namedClass? negated (text ++ suffix) =
      (namedClass? negated text).map fun (negated, set, rest) => (negated, set, rest ++ suffix) := by
  unfold namedClass?
  cases ended : text.dropWhile (· != ':') with
  | nil =>
    -- The name would go on into the suffix, and no class has a parenthesis in its name.
    have paren : ')' ∈ (text ++ suffix).takeWhile (· != ':') := by
      obtain ⟨rest, rfl⟩ := List.head?_eq_some_iff.mp closes.starts
      rw [List.takeWhile_append_of_pos (List.dropWhile_eq_nil_iff.mp ended)]
      simp
    rw [isNone_asciiClass? paren]
    cases CharSet.asciiClass? (String.ofList (text.takeWhile (· != ':'))) with
    | none => rfl
    | some set => rfl
  | cons colon rest =>
    have ends : text.dropWhile (· != ':') ≠ [] := by simp [ended]
    rw [Text.takeWhile_append_of_ends ends, Text.dropWhile_append_of_ends ends, stripPrefix?_append closes (by decide), ended]
    cases CharSet.asciiClass? (String.ofList (text.takeWhile (· != ':'))) with
    | none => rfl
    | some set =>
      cases Text.stripPrefix? [':', ']'] (colon :: rest) with
      | none => rfl
      | some rest => rfl

omit closes in
-- What a longer text begins with, the text does too.
theorem exists_cons_of_append {start rest : List Char} {mark : Char} (some : start ≠ [])
    (same : start ++ suffix = mark :: rest) : ∃ left, start = mark :: left := by
  cases start with
  | nil => exact absurd rfl some
  | cons char start =>
    cases same
    exact ⟨start, rfl⟩

omit closes in
def classNegation (text : List Char) : Bool × List Char :=
  match text with
  | '^' :: rest => (true, rest)
  | _ => (false, text)

theorem classNegation_append (text : List Char) :
    classNegation (text ++ suffix) = ((classNegation text).1, (classNegation text).2 ++ suffix) := by
  obtain ⟨behind, rfl⟩ := List.head?_eq_some_iff.mp closes.starts
  unfold classNegation
  split
  · rename_i rest same
    obtain ⟨left, rfl⟩ := exists_cons_of_append (by rintro rfl; simp at same) same
    cases same
    rfl
  · rename_i other
    split
    · rename_i rest
      exact absurd rfl (other (rest ++ ')' :: behind))
    · rfl

omit closes in
theorem asciiClass?_eq (text : List Char) : asciiClass? text =
    (Text.stripPrefix? ['[', ':'] text).bind fun rest => namedClass? (classNegation rest).1 (classNegation rest).2 := rfl

theorem asciiClass?_append (text : List Char) :
    asciiClass? (text ++ suffix) =
      (asciiClass? text).map fun (negated, set, rest) => (negated, set, rest ++ suffix) := by
  rw [asciiClass?_eq, asciiClass?_eq, stripPrefix?_append closes (by decide)]
  cases Text.stripPrefix? ['[', ':'] text with
  | none => rfl
  | some rest =>
    simp only [Option.map_some, Option.bind_some, classNegation_append closes]
    exact namedClass?_append closes _ _

theorem exists_twice_of_append {start rest : List Char} {mark : Char} (some : start ≠ []) (unclosed : mark ≠ ')')
    (same : start ++ suffix = mark :: mark :: rest) : ∃ left, start = mark :: mark :: left := by
  obtain ⟨left, rfl⟩ := exists_cons_of_append some same
  cases left with
  | nil =>
    have paren : suffix.head? = Option.some mark := congrArg List.head? (List.cons.inj same).2
    exact absurd (Option.some.inj (paren.symm.trans closes.starts)) unclosed
  | cons char left =>
    cases same
    exact ⟨left, rfl⟩

-- A bracket inside a set opens a class by its name or another set.
theorem readInBrackets_agrees {bracket longerBracket : Reader SizedSet}
    {others longerOthers : Members → Reader Members}
    (agree : Agrees suffix Further bracket longerBracket)
    (agreeOthers : ∀ members, Agrees suffix Any (others members) (longerOthers members)) (members : Members) :
    Agrees suffix Further
      (do
        match asciiClass? (← get).text with
        | some (negated, set, rest) =>
          setText rest
          others (members.add (← foldedSet negated set) 0)
        | none =>
          let nested ← bracket
          others (members.add nested.set nested.depth))
      (do
        match asciiClass? (← get).text with
        | some (negated, set, rest) =>
          setText rest
          longerOthers (members.add (← foldedSet negated set) 0)
        | none =>
          let nested ← longerBracket
          longerOthers (members.add nested.set nested.depth)) := by
  apply Agrees.getSame
  intro reading here text goesOn
  have nested : Agrees suffix (· = reading.text) bracket longerBracket :=
    agree.narrow fun _ same => same ▸ here
  dsimp only
  -- Whether a class has a name is settled before the suffix starts.
  rcases goesOn with same | more
  · rw [same]
    cases asciiClass? reading.text with
    | none => exact nested.bind fun nested => agreeOthers _
    | some found =>
      exact (Agrees.setText (.inl rfl)).bind fun _ => (foldedSet_steady _ _).bind fun set => agreeOthers _
  · rw [more, asciiClass?_append closes]
    cases asciiClass? reading.text with
    | none => exact nested.bind fun nested => agreeOthers _
    | some found =>
      exact (Agrees.setText (.inr rfl)).bind fun _ => (foldedSet_steady _ _).bind fun set => agreeOthers _

theorem readBracket_agrees {few many : Nat} (le : few ≤ many) :
    Agrees suffix Further (readBracket few) (readBracket many) ∧
      ∀ members, Agrees suffix Any (readMembers few members) (readMembers many members) := by
  induction few generalizing many with
  | zero =>
    constructor
    · rw [readBracket]
      exact .fail
    · intro members
      rw [readMembers]
      exact .fail
  | succ few ih =>
    obtain ⟨many, rfl⟩ := Nat.exists_eq_add_of_le' (Nat.zero_lt_of_lt le)
    obtain ⟨ihBracket, ihMembers⟩ := ih (Nat.le_of_succ_le_succ le)
    constructor
    · rw [readBracket, readBracket]
      apply (readOpening_steady closes).bind
      rintro ⟨negated, members⟩
      apply (ihMembers members).bind
      intro members
      apply Agrees.flags
      intro flags
      exact (foldedSet_steady negated _).bind fun set => .pure _
    · intro members
      rw [readMembers, readMembers]
      apply (Agrees.passSpace closes).bind
      intro _
      apply Agrees.flags
      intro flags
      have operation {sort : List Char → Prop} {rest long : List Char} (goesOn : Continues suffix rest long)
          (operation : CharSet → CharSet → CharSet) : Agrees suffix sort
          (do setText rest; readMembers few (members.operate operation flags))
          (do setText long; readMembers many (members.operate operation flags)) :=
        (Agrees.setText goesOn).bind fun _ => ihMembers _
      have inBrackets := readInBrackets_agrees closes ihBracket ihMembers members
      have single {sort : List Char → Prop} : Agrees suffix sort
          (do let set ← readRange; readMembers few (members.add set 0))
          (do let set ← readRange; readMembers many (members.add set 0)) :=
        (readRange_steady closes).bind fun set => ihMembers _
      apply Agrees.getSame
      intro reading _ text goesOn
      dsimp only
      generalize reading.text = start at goesOn
      rcases goesOn with rfl | rfl
      · split
        · exact .fail
        · exact (Agrees.pass.bind fun _ => .pure members).narrow (by rintro _ rfl; exact List.cons_ne_nil _ _)
        · exact operation (.inl rfl) _
        · exact operation (.inl rfl) _
        · exact operation (.inl rfl) _
        · exact inBrackets.narrow (by rintro _ rfl; exact List.cons_ne_nil _ _)
        · exact single
      · split
        · exact .fail
        · exact (Agrees.pass.bind fun _ => .pure members).narrow (by rintro _ rfl; exact List.cons_ne_nil _ _)
        · exact operation (.inr rfl) _
        · exact operation (.inr rfl) _
        · exact operation (.inr rfl) _
        · exact inBrackets.narrow (by rintro _ rfl; exact List.cons_ne_nil _ _)
        -- What no operation begins and no bracket opens or closes stays so with the suffix behind it.
        · rename_i some closing ands hyphens tildes opening
          split
          · rename_i none
            exact absurd (List.append_eq_nil_iff.mp none).1 some
          · rename_i same
            obtain ⟨_, starts⟩ := exists_cons_of_append some same
            exact absurd starts (closing _)
          · rename_i same
            obtain ⟨_, starts⟩ := exists_twice_of_append closes some (by decide) same
            exact absurd starts (ands _)
          · rename_i same
            obtain ⟨_, starts⟩ := exists_twice_of_append closes some (by decide) same
            exact absurd starts (hyphens _)
          · rename_i same
            obtain ⟨_, starts⟩ := exists_twice_of_append closes some (by decide) same
            exact absurd starts (tildes _)
          · rename_i same
            obtain ⟨_, starts⟩ := exists_cons_of_append some same
            exact absurd starts (opening _)
          · exact single

end

end BslLint.Pattern
