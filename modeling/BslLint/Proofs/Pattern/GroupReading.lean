import BslLint.Proofs.Pattern.SetReading

/-! The readers of repetitions, groups and alternatives read the same inside a group, and so does the reader of whole
expressions. -/

set_option autoImplicit false

namespace BslLint.Pattern

open Reader

section

variable {suffix : List Char} (closes : Closes suffix)
include closes

theorem passLazy_steady {sort : List Char → Prop} : Steady suffix sort passLazy := by
  apply Agrees.peek? closes
  · intro char
    apply Agrees.ite
    · exact Agrees.pass.bind fun _ => .pure true
    · exact .pure false
  · exact .pure false
  · rfl

theorem readDigits_agrees {few many : Nat} (le : few ≤ many) :
    Agrees suffix Any (readDigits few) (readDigits many) := by
  induction few generalizing many with
  | zero => exact .fail
  | succ few ih =>
    obtain ⟨many, rfl⟩ := Nat.exists_eq_add_of_le' (Nat.zero_lt_of_lt le)
    apply Agrees.peek? closes
    · intro char
      apply Agrees.ite
      · exact (Agrees.passWithSpace closes).bind fun _ =>
          (ih (Nat.le_of_succ_le_succ le)).bind fun digits => .pure _
      · exact .pure []
    · exact .pure []
    · rfl

theorem passBlanks_steady {sort : List Char → Prop} : Steady suffix sort passBlanks := by
  intro reading _ text goesOn value rest read
  cases read
  refine ⟨Text.trimStart text, ?_, rfl⟩
  rcases goesOn with rfl | rfl
  · exact .inl rfl
  · exact .inr (trimStart_append_closing closes reading.text)

theorem readCount_steady : Steady suffix Any readCount := by
  apply (passBlanks_steady closes).bind
  intro _
  apply Agrees.get
  intro reading _ text goesOn
  apply (readDigits_agrees closes goesOn.length_le).bind
  intro digits
  apply (passBlanks_steady closes).bind
  intro _
  apply (Agrees.passSpace closes).bind
  intro _
  cases Text.digitsValue? digits with
  | none => exact .pure none
  | some value => exact .ite (.pure _) .fail

theorem readCounts_steady : Steady suffix Further readCounts := by
  apply (Agrees.passWithSpace closes).bind
  intro _
  apply (Agrees.peek fun _ => .pure _).bind
  intro _
  apply (readCount_steady closes).bind
  intro least
  apply Agrees.peek
  intro char
  apply Agrees.ite
  · apply (Agrees.passWithSpace closes).bind
    intro _
    apply Agrees.peek
    intro char
    apply Agrees.ite
    · exact (required_steady least).bind fun least => .pure _
    · apply (required_steady least).bind
      intro least
      apply (readCount_steady closes).bind
      intro most
      exact (required_steady most).bind fun most => .pure _
  · exact (required_steady least).bind fun least => .pure _

theorem readCounted_steady (parts : List Part) : Steady suffix Further (readCounted parts) := by
  unfold readCounted
  split
  · apply (readCounts_steady closes).bind
    rintro ⟨least, most⟩
    apply (Agrees.expect '}').bind
    intro _
    apply (Agrees.passSpace closes).bind
    intro _
    apply (passLazy_steady closes).bind
    intro lazy
    apply Agrees.ite
    · exact .fail_bind _
    · exact repeatLast_steady _ least most lazy
  · exact .fail

omit closes in
theorem readFlags_agrees {few many : Nat} (le : few ≤ many) (seen : List Char) (value : Bool) (flags : Flags) :
    Agrees suffix Any (readFlags few seen value flags) (readFlags many seen value flags) := by
  induction few generalizing many seen value flags with
  | zero => exact .fail
  | succ few ih =>
    obtain ⟨many, rfl⟩ := Nat.exists_eq_add_of_le' (Nat.zero_lt_of_lt le)
    have ih := ih (Nat.le_of_succ_le_succ le)
    apply Agrees.peek
    intro letter
    apply Agrees.ite
    · exact .ite .fail (.pure _)
    apply Agrees.ite
    · exact .fail
    apply Agrees.ite
    · exact Agrees.pass.bind fun _ => ih _ _ _
    cases flags.set? letter value with
    | none => exact .fail
    | some flags => exact Agrees.pass.bind fun _ => ih _ _ _

omit closes in
def newName? (names : List (List Char)) (text : List Char) : Option (List Char) :=
  match text.takeWhile (· != '>') with
  | [] => none
  | first :: rest =>
    if (first == '_' || Text.isAlphabetic first) && rest.all (fun char =>
        char == '_' || char == '.' || char == '[' || char == ']' || Text.isAlphanumeric char) &&
      !names.contains (first :: rest) then some (first :: rest) else none

omit closes in
theorem readGroupName_eq (reading : Reading) : readGroupName reading =
    (newName? reading.names reading.text).bind fun name =>
      expect '>' { reading with text := reading.text.drop name.length, names := name :: reading.names } := by
  unfold readGroupName newName?
  simp only [bind, StateT.bind, get, getThe, MonadStateOf.get, StateT.get, pure, Option.bind_some]
  cases reading.text.takeWhile (· != '>') with
  | nil => rfl
  | cons first rest =>
    dsimp only
    split
    · rfl
    · rfl

omit closes in
theorem eq_of_newName? {names : List (List Char)} {text name : List Char} (isNew : newName? names text = some name) :
    name = text.takeWhile (· != '>') := by
  unfold newName? at isNew
  split at isNew
  · cases isNew
  · rename_i same
    split at isNew
    · cases isNew
      exact same.symm
    · cases isNew

omit closes in
theorem readGroupName_steady : Steady suffix Any readGroupName := by
  intro reading _ text goesOn value rest read
  rcases goesOn with rfl | rfl
  · exact ⟨rest.text, .inl rfl, read⟩
  rw [readGroupName_eq] at read ⊢
  obtain ⟨name, isNew, read⟩ := Option.bind_eq_some_iff.mp read
  have isFirst := eq_of_newName? isNew
  have some : reading.text.drop name.length ≠ [] := by
    intro none
    rw [none] at read
    cases read
  have ends : reading.text.dropWhile (· != '>') ≠ [] := by
    have split := List.takeWhile_append_dropWhile (p := (· != '>')) (l := reading.text)
    intro none
    rw [none, List.append_nil] at split
    rw [isFirst, split, List.drop_length] at some
    exact some rfl
  have longName : newName? reading.names (reading.text ++ suffix) = Option.some name := by
    rw [← isNew]
    simp only [newName?, Text.takeWhile_append_of_ends ends]
  have left : (reading.text ++ suffix).drop name.length = reading.text.drop name.length ++ suffix :=
    List.drop_append_of_le_length (isFirst ▸ (List.takeWhile_prefix _).length_le)
  have expects : Steady suffix Any (expect '>') := .expect '>'
  obtain ⟨more, goesOn, found⟩ := expects _ trivial _ (.inr rfl) value rest read
  refine ⟨more, goesOn, ?_⟩
  dsimp only
  rw [longName, Option.bind_some, left]
  exact found

theorem readGroupOpening_steady : Steady suffix Further readGroupOpening := by
  have rejects (lookarounds : List String) (unclosed : ∀ text ∈ lookarounds, ')' ∉ text.toList) :
      Steady suffix Any (forIn lookarounds PUnit.unit fun lookaround _ => do
        if ← passText? lookaround then
          fail
          return ForInStep.yield PUnit.unit
        else return ForInStep.yield PUnit.unit) := by
    induction lookarounds with
    | nil => exact .pure _
    | cons lookaround others ih =>
      rw [List.forIn_cons]
      apply Agrees.bind
      · apply (Agrees.passText? closes (unclosed lookaround List.mem_cons_self)).bind
        intro found
        exact .ite (.fail_bind _) (.pure _)
      rintro (_ | _)
      · exact .pure _
      · exact ih fun text mem => unclosed text (List.mem_cons_of_mem _ mem)
  apply (Agrees.passWithSpace closes).bind
  intro _
  apply (rejects ["?=", "?!", "?<=", "?<!"] (by decide)).bind
  intro _
  apply (Agrees.passText? closes (by decide)).bind
  intro long
  apply (Agrees.passText? closes (by decide)).bind
  intro short
  apply Agrees.ite
  · exact readGroupName_steady.bind fun _ => capture_steady
  apply (Agrees.passText? closes (by decide)).bind
  intro flagged
  apply Agrees.ite
  · apply Agrees.get
    intro reading _ text goesOn
    apply Agrees.flags
    intro flags
    apply (readFlags_agrees goesOn.length_le [] true flags).bind
    rintro ⟨seen, flags⟩
    apply Agrees.peek
    intro char
    apply Agrees.ite
    · apply Agrees.pass.bind
      intro _
      exact .ite (.fail_bind _) (.pure _)
    · exact Agrees.pass.bind fun _ => .pure _
  · exact capture_steady

omit closes in
def ofAtom (atom : Atom) : Reader Sized :=
  match atom with
  | .literal char byte => return ⟨.charIn (← literalSet char byte), 0⟩
  | .set set => return ⟨.charIn set, 0⟩
  | .assertion condition => return ⟨.assertion condition, 0⟩

omit closes in
theorem ofAtom_steady (atom : Atom) : Steady suffix Any (ofAtom atom) := by
  cases atom with
  | literal char byte => exact (literalSet_steady char byte).bind fun set => .pure _
  | set set => exact .pure _
  | assertion condition => exact .pure _

theorem readSingle_steady : Steady suffix Further readSingle := by
  have single (atom : Atom) : Steady suffix Any (ofAtom atom) := ofAtom_steady atom
  apply Agrees.flags
  intro flags
  apply Agrees.peek
  intro char
  dsimp only
  split
  · exact (readEscape_steady closes).bind single
  · apply Agrees.pass.bind
    intro _
    apply Agrees.ite
    · exact .fail_bind _
    apply Agrees.ite
    · exact (Agrees.pure _).bind single
    · exact .ite ((Agrees.pure _).bind single) ((Agrees.pure _).bind single)
  · exact Agrees.pass.bind fun _ => (Agrees.pure _).bind single
  · exact Agrees.pass.bind fun _ => (Agrees.pure _).bind single
  · exact Agrees.pass.bind fun _ => (Agrees.pure _).bind single

theorem repeated_agrees {next longerNext : List Part → Reader (List Part)}
    (agree : ∀ parts, Agrees suffix Any (next parts) (longerNext parts)) (parts : List Part) (least : Nat)
    (most : Option Nat) :
    Agrees suffix Further (do pass; next (← repeatLast parts least most (← passLazy)))
      (do pass; longerNext (← repeatLast parts least most (← passLazy))) := by
  apply Agrees.pass.bind
  intro _
  apply (passLazy_steady closes).bind
  intro lazy
  exact (repeatLast_steady parts least most lazy).bind agree

theorem readAlternatives_agrees {few many : Nat} (le : few ≤ many) :
    Agrees suffix Any (readAlternatives few) (readAlternatives many) ∧
      ∀ parts, Agrees suffix Any (readParts few parts) (readParts many parts) := by
  induction few generalizing many with
  | zero =>
    constructor
    · rw [readAlternatives]
      exact .fail
    · intro parts
      rw [readParts]
      exact .fail
  | succ few ih =>
    obtain ⟨many, rfl⟩ := Nat.exists_eq_add_of_le' (Nat.zero_lt_of_lt le)
    obtain ⟨ihAlternatives, ihParts⟩ := ih (Nat.le_of_succ_le_succ le)
    constructor
    · rw [readAlternatives, readAlternatives]
      apply (ihParts []).bind
      intro parts
      apply Agrees.peek? closes
      · intro char
        apply Agrees.ite
        · exact Agrees.pass.bind fun _ => ihAlternatives.bind fun branches => .pure _
        · exact .pure _
      · exact .pure _
      · rfl
    · intro parts
      rw [readParts, readParts]
      apply (Agrees.passSpace closes).bind
      intro _
      apply Agrees.peek? closes
      · intro char
        split
        · cases ‹some char = none›
        · exact .pure _
        · exact .pure _
        · -- A group: what it holds is read as alternatives, and its parenthesis is its own.
          apply Agrees.flags
          intro before
          apply (readGroupOpening_steady closes).bind
          intro opening
          cases opening with
          | flags flags => exact (Agrees.setFlags flags).bind fun _ => ihParts _
          | group flags first =>
            apply (Agrees.setFlags flags).bind
            intro _
            apply ihAlternatives.bind
            intro branches
            apply (Agrees.setFlags before).bind
            intro _
            exact (Agrees.expect ')').bind fun _ => ihParts _
        · exact (readBracket_agrees closes (Nat.le_of_succ_le_succ le)).1.bind fun bracket => ihParts _
        · exact repeated_agrees closes ihParts parts 0 (some 1)
        · exact repeated_agrees closes ihParts parts 0 none
        · exact repeated_agrees closes ihParts parts 1 none
        · exact (readCounted_steady closes parts).bind fun parts => ihParts parts
        · exact (readSingle_steady closes).bind fun part => ihParts _
      · exact .pure _
      · rfl

end

end BslLint.Pattern
