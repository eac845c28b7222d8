import BslLint.Proofs.Check.EmptyLines

/-! Documents one after the other, with an empty line between them. Rules report on each as if it stood alone, further
down on the second one. Directives are the exception: code of the first document makes those of the second late. -/

set_option autoImplicit false

namespace BslLint

open Source

def Source.Position.below (count : Nat) (position : Position) : Position :=
  { position with line := position.line + count }

-- The same finding that many lines further down.
def Source.Finding.below (count : Nat) (finding : Finding) : Finding :=
  { finding with range := ⟨finding.range.start.below count, finding.range.stop.below count⟩ }

namespace Document

theorem number_add (first count : Nat) (lines : List (List Char)) :
    number (first + count) lines = (number first lines).map fun numbered => (numbered.1 + count, numbered.2) := by
  induction lines generalizing first with
  | nil => rfl
  | cons line lines ih => rw [number, number, List.map_cons, ← ih, Nat.add_right_comm]

def Joins (whole first second : Document) : Prop :=
  whole.lines = first.lines ++ [] :: second.lines

def offset (first : Document) : Nat :=
  first.lines.length + 1

theorem Joins.numberedLines {whole first second : Document} (joins : whole.Joins first second) :
    whole.numberedLines = first.numberedLines ++ (first.lines.length, []) ::
      second.numberedLines.map fun numbered => (numbered.1 + first.offset, numbered.2) := by
  rw [Document.numberedLines, joins, number_append, number, Nat.zero_add, Document.numberedLines,
    Document.numberedLines, ← number_add, Nat.zero_add, offset]

theorem linesOf_append {above : List Char} (ended : above.getLast? = some '\n') (below : List Char) :
    linesOf (above ++ '\n' :: below) = linesOf above ++ [] :: linesOf below := by
  obtain ⟨before, rfl⟩ := List.getLast?_eq_some_iff.mp ended
  rw [linesOf, List.append_assoc, List.singleton_append, segments_append_newline, List.map_append]
  rfl

/-- A byte order mark at the start of the second text would be part of its first line. -/
theorem joins_ofText (path : Path) (fileType : FileType) {above below : String}
    (ended : above.toList.getLast? = some '\n') (unmarked : below.toList.head? ≠ some byteOrderMark) :
    (ofText path fileType (above ++ "\n" ++ below)).Joins (ofText path fileType above)
      (ofText path fileType below) := by
  have text : (above ++ "\n" ++ below).toList = above.toList ++ '\n' :: below.toList := by simp
  rw [Joins, lines, lines, lines, content_ofText, content_ofText, content_ofText, if_neg unmarked, text]
  cases chars : above.toList with
  | nil =>
    rw [chars] at ended
    cases ended
  | cons char rest =>
    rw [chars] at ended
    rw [List.cons_append, List.head?_cons, List.head?_cons, List.tail_cons, List.tail_cons]
    split
    · rename_i mark
      -- The mark is not what ends the text.
      have some : rest ≠ [] := by
        rintro rfl
        cases mark.symm.trans ended
      refine linesOf_append ?_ below.toList
      rwa [List.getLast?_cons_of_ne_nil some] at ended
    · exact linesOf_append ended below.toList

end Document

open Document

def Source.Movable (check : Nat → List Char → List Finding) : Prop :=
  ∀ number count line, check (number + count) line = (check number line).map (Finding.below count)

theorem LineLength.checkLine_movable (rule : LineLength) : Movable rule.checkLine := by
  intro number count line
  unfold checkLine
  simp only
  split <;> rfl

theorem ServiceTag.checkLine_movable (rule : ServiceTag) : Movable rule.checkLine := by
  intro number count line
  unfold checkLine
  cases rule.tag? line <;> rfl

theorem YoLetter.checkLine_movable : Movable checkLine := by
  intro number count line
  rw [checkLine, checkLine, List.map_map]
  rfl

theorem ModalWindow.checkLine_movable : Movable checkLine := by
  intro number count line
  rw [checkLine, checkLine, List.map_filterMap]
  refine List.filterMap_congr fun name _ => ?_
  unfold checkName
  split
  · rw [Option.map_map]
    rfl
  · rfl

theorem MagicNumber.checkLine_movable (rule : MagicNumber) : Movable rule.checkLine := by
  intro number count line
  unfold checkLine
  simp only
  split
  · rfl
  · rw [List.map_map]
    rfl

theorem DirectivePosition.checkLine_movable : Movable checkLine := by
  intro number count line
  unfold checkLine
  split <;> rfl

theorem Source.Movable.flatMap {check : Nat → List Char → List Finding} (movable : Movable check) (count : Nat)
    (numbered : List (Nat × List Char)) :
    (numbered.map fun line => (line.1 + count, line.2)).flatMap (fun line => check line.1 line.2) =
      (numbered.flatMap fun line => check line.1 line.2).map (Finding.below count) := by
  rw [List.flatMap_map, List.map_flatMap]
  simp only [movable _ count]

variable {whole first second : Document} (joins : whole.Joins first second)

include joins in
theorem checkLines_of_joins {check : Nat → List Char → List Finding} (movable : Movable check)
    (silent : ∀ number, check number [] = []) :
    checkLines whole check =
      checkLines first check ++ (checkLines second check).map (Finding.below first.offset) := by
  unfold checkLines
  rw [joins.numberedLines, List.flatMap_append, List.flatMap_cons, movable.flatMap]
  simp only [silent, List.nil_append]

namespace CommentedCode

theorem runs_map {Item Other : Type} (move : Item → Other) (items : List (Option Item)) :
    runs (items.map (Option.map move)) = (runs items).map (List.map move) := by
  induction items with
  | nil => rfl
  | cons item rest ih =>
    cases item with
    | none => exact ih
    | some item =>
      rw [List.map_cons, Option.map_some, runs.eq_def, runs.eq_def (some item :: rest)]
      simp only [ih]
      cases rest with
      | nil => rfl
      | cons next others =>
        cases next with
        | none => rfl
        | some next => cases runs (some next :: others) <;> rfl

def CommentLine.below (count : Nat) (comment : CommentLine) : CommentLine :=
  { comment with number := comment.number + count }

theorem commentLine?_add (number count : Nat) (line : List Char) :
    commentLine? (number + count) line = (commentLine? number line).map (CommentLine.below count) := by
  unfold commentLine?
  simp only
  split
  · split <;> rfl
  · rfl

include joins in
theorem blocks_of_joins :
    blocks whole = blocks first ++ (blocks second).map (List.map (CommentLine.below first.offset)) := by
  have gap : commentLine? first.lines.length [] = none := rfl
  unfold blocks
  rw [joins.numberedLines, List.map_append, List.map_cons, ← runs_map, List.map_map, List.map_map]
  simp only [gap, runs_append_none, Function.comp_def, commentLine?_add]

theorem isCode_below (rule : CommentedCode) (count : Nat) (block : List CommentLine) :
    rule.isCode (block.map (CommentLine.below count)) = rule.isCode block := by
  have texts : writtenTexts (block.map (CommentLine.below count)) = writtenTexts block := by
    rw [writtenTexts, writtenTexts, List.map_map]
    rfl
  rw [isCode, isCode, texts]

-- What is reported of a block, if it is one of code.
theorem findings_below (rule : CommentedCode) (count : Nat) (blocks : List (List CommentLine)) :
    ((blocks.map (List.map (CommentLine.below count))).filter rule.isCode).filterMap
        (fun block => (blockRange? block).map fun range => (⟨range, []⟩ : Finding)) =
      ((blocks.filter rule.isCode).filterMap fun block =>
        (blockRange? block).map fun range => (⟨range, []⟩ : Finding)).map (Finding.below count) := by
  have judged : rule.isCode ∘ List.map (CommentLine.below count) = rule.isCode := by
    funext block
    exact isCode_below rule count block
  rw [List.filter_map, judged, List.filterMap_map, List.map_filterMap]
  refine List.filterMap_congr fun block _ => ?_
  simp only [Function.comp_apply, blockRange?, List.head?_map, List.getLast?_map]
  cases block.head? <;> cases block.getLast? <;> rfl

include joins in
theorem check_of_joins (rule : CommentedCode) : Rule.check rule whole =
    Rule.check rule first ++ (Rule.check rule second).map (Finding.below first.offset) := by
  simp only [Rule.check, blocks_of_joins joins, List.filter_append, List.filterMap_append, findings_below]

end CommentedCode

namespace DirectivePosition

theorem checkFrom_true (lines : List (Nat × List Char)) :
    checkFrom true lines = lines.flatMap fun numbered => checkLine numbered.1 numbered.2 := by
  induction lines with
  | nil => rfl
  | cons numbered rest ih =>
    obtain ⟨number, line⟩ := numbered
    rw [List.flatMap_cons, checkFrom, checkLine]
    cases kindOf line <;> simp only [ih, if_true] <;> rfl

theorem checkFrom_add (seen : Bool) (count : Nat) (lines : List (Nat × List Char)) :
    checkFrom seen (lines.map fun numbered => (numbered.1 + count, numbered.2)) =
      (checkFrom seen lines).map (Finding.below count) := by
  induction lines generalizing seen with
  | nil => rfl
  | cons numbered rest ih =>
    obtain ⟨number, line⟩ := numbered
    rw [List.map_cons, checkFrom, checkFrom]
    cases kindOf line with
    | blank => exact ih seen
    | statement => exact ih true
    | directive span =>
      cases seen with
      | true => simp only [ih]; rfl
      | false => exact ih false

theorem any_isStatement_iff (document : Document) :
    (document.numberedLines.any fun numbered => isStatement numbered.2) = true ↔
      ∃ line ∈ document.lines, kindOf line = .statement := by
  simp only [List.any_eq_true, Prod.exists, mem_numberedLines, isStatement, beq_iff_eq]
  constructor
  · rintro ⟨number, line, there, statement⟩
    exact ⟨line, List.mem_of_getElem? there, statement⟩
  · rintro ⟨line, mem, statement⟩
    obtain ⟨number, there⟩ := List.mem_iff_getElem?.mp mem
    exact ⟨number, line, there, statement⟩

/-- What is reported on a document that comes after another one: all directives if there is a statement before. -/
def checkAfter (rule : DirectivePosition) (earlier document : Document) : List Finding :=
  if ∃ line ∈ earlier.lines, kindOf line = .statement then checkLines document checkLine
  else Rule.check rule document

include joins in
theorem check_of_joins (rule : DirectivePosition) : Rule.check rule whole =
    Rule.check rule first ++ (rule.checkAfter first second).map (Finding.below first.offset) := by
  have blank : kindOf [] = .blank := by decide
  simp only [Rule.check]
  rw [joins.numberedLines, checkFrom_append, checkAfter]
  simp only [checkFrom, blank, checkFrom_add, Bool.false_or]
  split
  · rename_i late
    rw [(any_isStatement_iff first).mpr late, checkFrom_true]
    rfl
  · rename_i early
    rw [Bool.eq_false_iff.mpr fun late => early ((any_isStatement_iff first).mp late)]
    rfl

end DirectivePosition

/-- What a rule reports on a document that comes after another one. -/
def BuiltinRule.checkAfter (rule : BuiltinRule) (earlier document : Document) : List Finding :=
  match rule with
  | .directivePosition rule => rule.checkAfter earlier document
  | rule => Rule.check rule document

/-- On a text that consists of two texts with an empty line between them, a rule reports what it reports on the first,
and then, further down, what it reports on the second by itself. Only where directives stand depends on the first. -/
theorem BuiltinRule.check_concatenated (rule : BuiltinRule) (path : Path) (fileType : FileType)
    {above below : String} (ended : above.toList.getLast? = some '\n')
    (unmarked : below.toList.head? ≠ some byteOrderMark) :
    Rule.check rule (.ofText path fileType (above ++ "\n" ++ below)) =
      Rule.check rule (.ofText path fileType above) ++
        (rule.checkAfter (.ofText path fileType above) (.ofText path fileType below)).map
          (Finding.below ((ofText path fileType above).lines.length + 1)) := by
  have joins := joins_ofText path fileType ended unmarked
  cases rule with
  | lineLength rule => exact checkLines_of_joins joins rule.checkLine_movable rule.checkLine_nil
  | serviceTag rule => exact checkLines_of_joins joins rule.checkLine_movable rule.checkLine_nil
  | yoLetter => exact checkLines_of_joins joins YoLetter.checkLine_movable YoLetter.checkLine_nil
  | modalWindow => exact checkLines_of_joins joins ModalWindow.checkLine_movable ModalWindow.checkLine_nil
  | magicNumber rule => exact checkLines_of_joins joins rule.checkLine_movable rule.checkLine_nil
  | commentedCode rule => exact rule.check_of_joins joins
  | directivePosition rule => exact rule.check_of_joins joins

/-- A directive that is late only because of the text above it, in a text with a byte order mark. -/
theorem BuiltinRule.check_concatenated_lateDirective :
    let above := "\uFEFF#use a\r\nx = 1;\n"
    let below := "  #use b // c\n"
    let rule := BuiltinRule.directivePosition {}
    above.toList.getLast? = some '\n' ∧ below.toList.head? ≠ some byteOrderMark ∧
      Rule.check rule (.ofText ⟨"m.os"⟩ .os below) = [] ∧
      Rule.check rule (.ofText ⟨"m.os"⟩ .os (above ++ "\n" ++ below)) = [⟨.onLine 3 2 8, ["#use b"]⟩] := by
  intro above below rule
  have ended : above.toList.getLast? = some '\n' := by decide +kernel
  have unmarked : below.toList.head? ≠ some byteOrderMark := by decide +kernel
  refine ⟨ended, unmarked, by decide +kernel, ?_⟩
  rw [rule.check_concatenated ⟨"m.os"⟩ .os ended unmarked]
  decide +kernel

end BslLint
