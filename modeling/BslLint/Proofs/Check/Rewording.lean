import BslLint.Check.Builtin
import BslLint.Proofs.Source.Rewording
import BslLint.Proofs.Source.Trailing

/-! Rules that look at code only. What literals and comments say does not matter to them: they report the same
on two documents that differ there alone. -/

set_option autoImplicit false

namespace BslLint

open Source

section

variable {blank : List Char} (spaces : Text.isBlank blank = true)
include spaces

theorem ModalWindow.isCalled_followed (name : Span) : isCalled (name.followed blank) = isCalled name := by
  rw [isCalled, isCalled, Span.followed, Text.head?_trimStart_append_blank spaces]

theorem ModalWindow.checkName_followed (number : Nat) (name : Span) :
    checkName number (name.followed blank) = checkName number name := by
  rw [checkName, isCalled_followed spaces]
  rfl

theorem MagicNumber.isMagic_followed (rule : MagicNumber) (number : Span) :
    rule.isMagic (number.followed blank) = rule.isMagic number := by
  have index : isIndex (number.followed blank) = isIndex number := by
    rw [isIndex, isIndex, Span.followed, Text.head?_trimStart_append_blank spaces]
  rw [isMagic, index]
  rfl

theorem MagicNumber.afterMark?_append_blank (mark : Char) (text : List Char) :
    afterMark? mark (text ++ blank) = (afterMark? mark text).map (· ++ blank) := by
  unfold afterMark?
  cases trimmed : Text.trimStart text with
  | nil => rw [Text.trimStart_append_blank_of_nil spaces trimmed]; rfl
  | cons first rest =>
    rw [Text.trimStart_append_of_cons trimmed]
    simp only
    split <;> rfl

theorem MagicNumber.afterDigits?_append_blank (text : List Char) :
    afterDigits? (text ++ blank) = (afterDigits? text).map (· ++ blank) := by
  have stops := stops_of_isBlank spaces fun char => Text.isDigit_of_isSpace
  cases text with
  | nil =>
    cases blank with
    | nil => rfl
    | cons first rest =>
      rw [List.nil_append, afterDigits?, if_neg (by simp [stops first List.mem_cons_self])]
      rfl
  | cons first rest =>
    rw [List.cons_append, afterDigits?, afterDigits?, Text.dropWhile_append_of_stops stops]
    split <;> rfl

end

namespace MagicNumber

def afterFraction (text : List Char) : List Char :=
  match text with
  | '.' :: fraction => (afterDigits? fraction).getD text
  | _ => text

theorem endsWithNumber_eq (text : List Char) :
    endsWithNumber text = (afterDigits? (Text.trimStart text)).any fun rest =>
      Text.isBlank ((afterMark? ';' (afterFraction rest)).getD (afterFraction rest)) := by
  unfold endsWithNumber
  cases afterDigits? (Text.trimStart text) <;> rfl

section

variable {blank : List Char} (spaces : Text.isBlank blank = true)
include spaces

theorem afterFraction_append_blank (text : List Char) :
    afterFraction (text ++ blank) = afterFraction text ++ blank := by
  cases text with
  | nil =>
    unfold afterFraction
    split
    · rename_i fraction starts
      have space := Text.isSpace_of_mem_blank spaces (starts ▸ List.mem_cons_self)
      exact absurd space (by decide)
    · rfl
  | cons first rest =>
    by_cases point : first = '.'
    · subst point
      rw [List.cons_append, afterFraction, afterFraction, afterDigits?_append_blank spaces, ← List.cons_append,
        Option.getD_map]
    · simp [afterFraction, point]

theorem endsWithNumber_append_blank (text : List Char) : endsWithNumber (text ++ blank) = endsWithNumber text := by
  rw [endsWithNumber_eq, endsWithNumber_eq]
  cases trimmed : Text.trimStart text with
  | nil => rw [Text.trimStart_append_blank_of_nil spaces trimmed]
  | cons first rest =>
    rw [Text.trimStart_append_of_cons trimmed, ← List.cons_append, afterDigits?_append_blank spaces]
    cases afterDigits? (first :: rest) with
    | none => rfl
    | some rest =>
      simp only [Option.map_some, Option.any_some]
      rw [afterFraction_append_blank spaces, afterMark?_append_blank spaces, Option.getD_map,
        Text.isBlank_append_blank spaces]

theorem isAssignment_append_blank (code : List Char) : isAssignment (code ++ blank) = isAssignment code := by
  have stops : ∀ char ∈ blank, (Text.isWord char || char == '.') = false := by
    refine stops_of_isBlank spaces fun char space => ?_
    have notPoint : char ≠ '.' := by
      rintro rfl
      exact absurd space (by decide)
    simp [Text.isWord_of_isSpace space, notPoint]
  unfold isAssignment
  cases trimmed : Text.trimStart code with
  | nil => rw [Text.trimStart_append_blank_of_nil spaces trimmed]
  | cons first rest =>
    rw [Text.trimStart_append_of_cons trimmed]
    simp only
    rw [Text.dropWhile_append_of_stops stops, afterMark?_append_blank spaces]
    cases afterMark? '=' (rest.dropWhile fun char => Text.isWord char || char == '.') with
    | none => rfl
    | some value =>
      simp only [Option.map_some]
      rw [afterMark?_append_blank spaces, Option.getD_map, endsWithNumber_append_blank spaces]

end

end MagicNumber

-- Lines whose masked code is the same up to white space at the end.

section

variable {line other blank : List Char} (spaces : Text.isBlank blank = true)
  (masked : maskedCode line = maskedCode other ++ blank) (number : Nat)
include spaces masked

theorem YoLetter.checkLine_of_masked : checkLine number line = checkLine number other := by
  rw [checkLine, checkLine, masked, names_append_blank spaces, List.filter_map, List.map_map]
  rfl

theorem ModalWindow.checkLine_of_masked : checkLine number line = checkLine number other := by
  rw [checkLine, checkLine, masked, names_append_blank spaces, List.filterMap_map]
  congr 1
  funext name
  exact checkName_followed spaces number name

theorem MagicNumber.checkLine_of_masked (rule : MagicNumber) :
    rule.checkLine number line = rule.checkLine number other := by
  have magic : rule.isMagic ∘ Span.followed blank = rule.isMagic := by
    funext number
    exact isMagic_followed spaces rule number
  unfold checkLine
  simp only
  rw [masked, isAssignment_append_blank spaces, signedNumbers_append_blank spaces, List.filter_map, magic,
    List.map_map]
  rfl

end

-- Lines whose masked code is the same up to white space at the end of the first.
def SameCode (line other : List Char) : Prop :=
  ∃ blank, Text.isBlank blank = true ∧ maskedCode line = maskedCode other ++ blank

theorem sameCode_of_reworded {line new shown returns : List Char} (reworded : RewordedLine line new)
    (split : new = shown ++ returns) (all : Document.Returns returns) : SameCode line shown := by
  have spaces : Text.isBlank returns = true := by
    refine List.all_eq_true.mpr fun char mem => ?_
    rw [all char mem]
    rfl
  -- What the line lost is white space, and so it only leaves white space in the masked code.
  obtain ⟨more, blank, masked⟩ := maskedCode_append_blank spaces shown
  exact ⟨more, blank, by rw [← reworded.maskedCode, split, masked]⟩

theorem number_congr {check : Nat → List Char → List Finding} {lines others : List (List Char)}
    (same : List.Forall₂ (fun line other => ∀ number, check number line = check number other) lines others)
    (first : Nat) : (Document.number first lines).flatMap (fun numbered => check numbered.1 numbered.2) =
      (Document.number first others).flatMap fun numbered => check numbered.1 numbered.2 := by
  induction same generalizing first with
  | nil => rfl
  | cons same _ ih => rw [Document.number, Document.number, List.flatMap_cons, List.flatMap_cons, ih, same]

theorem checkLines_congr {document other : Document} {check : Nat → List Char → List Finding}
    (same : List.Forall₂ (fun line other => ∀ number, check number line = check number other)
      document.lines other.lines) : checkLines document check = checkLines other check :=
  number_congr same 0

def BuiltinRule.readsCode : BuiltinRule → Bool
  | .yoLetter _ | .modalWindow _ | .magicNumber _ => true
  | .lineLength _ | .serviceTag _ | .commentedCode _ | .directivePosition _ => false

theorem BuiltinRule.check_of_sameCode {rule : BuiltinRule} (reads : rule.readsCode = true) {document other : Document}
    (same : List.Forall₂ SameCode document.lines other.lines) :
    Rule.check rule document = Rule.check rule other := by
  cases rule with
  | yoLetter =>
    refine checkLines_congr (same.imp ?_)
    rintro line other ⟨blank, spaces, masked⟩ number
    exact YoLetter.checkLine_of_masked spaces masked number
  | modalWindow =>
    refine checkLines_congr (same.imp ?_)
    rintro line other ⟨blank, spaces, masked⟩ number
    exact ModalWindow.checkLine_of_masked spaces masked number
  | magicNumber rule =>
    refine checkLines_congr (same.imp ?_)
    rintro line other ⟨blank, spaces, masked⟩ number
    exact MagicNumber.checkLine_of_masked spaces masked number rule
  | lineLength | serviceTag | commentedCode | directivePosition => cases reads

theorem forall₂_sameCode {lines news shown : List (List Char)} (reworded : List.Forall₂ RewordedLine lines news)
    (kept : List.Forall₂ (fun new shown => ∃ returns, new = shown ++ returns ∧ Document.Returns returns) news shown) :
    List.Forall₂ SameCode lines shown := by
  induction reworded generalizing shown with
  | nil => cases kept; exact .nil
  | cons reworded _ ih =>
    obtain ⟨line, others, ⟨returns, split, all⟩, keptRest, rfl⟩ := List.forall₂_cons_left_iff.mp kept
    exact .cons (sameCode_of_reworded reworded split all) (ih keptRest)

/-- The rules that look at code only report the same on a document with other words in literals and comments. -/
theorem BuiltinRule.check_withLines {rule : BuiltinRule} (reads : rule.readsCode = true) {document : Document}
    {lines : List (List Char)} (reworded : List.Forall₂ RewordedLine document.lines lines) :
    Rule.check rule (document.withLines lines) = Rule.check rule document := by
  have kept := Document.lines_withLines (reworded.imp fun _ _ => RewordedLine.fits)
  exact (check_of_sameCode reads (forall₂_sameCode reworded kept)).symm

/-- A string with doubled quotes, a date, a comment, and a line that goes on with a string. -/
theorem BuiltinRule.check_withLines_literals :
    let document : Document :=
      .ofText ⟨"m.bsl"⟩ .bsl "Вопрос(\"а\"\"5\", '20240101') + 7; // 8 ё\r\n  |б 9\" + 3 // ю\n"
    let lines := ["Вопрос(\"/\"\"ё\", '\"/991/10') + 7; //".toList, "  |/ '\" + 3 // Вопрос() + 1".toList]
    (document.withLines lines).content =
        "Вопрос(\"/\"\"ё\", '\"/991/10') + 7; //\r\n  |/ '\" + 3 // Вопрос() + 1\n".toList ∧
      List.Forall₂ RewordedLine document.lines lines ∧ (BuiltinRule.magicNumber .standard).readsCode = true ∧
      Rule.check (BuiltinRule.magicNumber .standard) (document.withLines lines) =
        Rule.check (BuiltinRule.magicNumber .standard) document := by
  intro document lines
  have reworded : List.Forall₂ RewordedLine document.lines lines := by
    have old : document.lines = ["Вопрос(\"а\"\"5\", '20240101') + 7; // 8 ё".toList,
        "  ".toList ++ '|' :: "б 9\" + 3 // ю".toList] := by decide +kernel
    have new : lines = ["Вопрос(\"/\"\"ё\", '\"/991/10') + 7; //".toList,
        "  ".toList ++ '|' :: "/ '\" + 3 // Вопрос() + 1".toList] := by decide +kernel
    rw [old, new]
    refine .cons (.ordinary ?_ ?_) (.cons (.continued ?_ ?_) .nil) <;> decide +kernel
  exact ⟨by decide +kernel, reworded, rfl, check_withLines rfl reworded⟩

end BslLint
