import BslLint.Check.Builtin
import BslLint.Proofs.Pattern.Search
import BslLint.Proofs.Source.Extent
import BslLint.Proofs.Source.Masking

/-! What the built-in rules point at. Whatever its state, a rule points into the document, in the order of the
document and without overlap, and the rules that quote quote what they point at. -/

set_option autoImplicit false

namespace BslLint

open Source

theorem LineLength.checkLine_along (rule : LineLength) (number : Nat) (line : List Char) :
    AlongLine number line (rule.checkLine number line) := by
  unfold checkLine
  simp only
  split
  · exact .singleton rfl (Nat.zero_le _) (Text.trimEnd_prefix line).length_le
  · exact .nil number line

theorem YoLetter.checkLine_along (number : Nat) (line : List Char) :
    AlongLine number line (checkLine number line) := by
  rw [checkLine, ← List.filterMap_eq_map]
  refine ((names_placed _).filter hasYo).alongLine (length_maskedCode_le line) number fun name finding found => ?_
  cases found
  rfl

theorem ModalWindow.checkName_eq_some {number : Nat} {name : Span} {finding : Finding}
    (found : checkName number name = some finding) :
    ∃ replacement, finding = name.finding number [name.text, replacement] := by
  unfold checkName at found
  split at found
  · obtain ⟨replacement, _, rfl⟩ := Option.map_eq_some_iff.mp found
    exact ⟨replacement, rfl⟩
  · cases found

theorem ModalWindow.checkLine_along (number : Nat) (line : List Char) :
    AlongLine number line (checkLine number line) := by
  refine (names_placed _).alongLine (length_maskedCode_le line) number fun name finding found => ?_
  obtain ⟨_, rfl⟩ := checkName_eq_some found
  rfl

theorem MagicNumber.checkLine_along (rule : MagicNumber) (number : Nat) (line : List Char) :
    AlongLine number line (rule.checkLine number line) := by
  unfold checkLine
  simp only
  split
  · exact .nil number line
  · rw [← List.filterMap_eq_map]
    refine ((signedNumbers_placed _).filter rule.isMagic).alongLine (length_maskedCode_le line) number ?_
    intro span finding found
    cases found
    rfl

theorem ServiceTag.line_of_tag? {rule : ServiceTag} {line : List Char} {tag : Span}
    (found : rule.tag? line = some tag) : tag.line = line := by
  have whole := splitFrom_append (.atLineStart line) line
  unfold tag? at found
  split at found
  · rename_i code comment split_eq
    obtain ⟨tag, matched, rfl⟩ := Option.map_eq_some_iff.mp found
    have own := Pattern.line_of_findMarked? matched
    -- The tag is moved from the comment to its place in the line.
    rw [← splitComment, split_eq, ← own] at whole
    rw [whole]
    simp [Span.line]
  · cases found

theorem ServiceTag.checkLine_along (rule : ServiceTag) (number : Nat) (line : List Char) :
    AlongLine number line (rule.checkLine number line) := by
  unfold checkLine
  cases found : rule.tag? line with
  | none => exact .nil number line
  | some tag => exact .singleton rfl tag.start_le_stop (line_of_tag? found ▸ tag.stop_le_length)

-- The position of directives depends on the lines before, but each line has one finding at most.

namespace DirectivePosition

def checkLine (number : Nat) (line : List Char) : List Finding :=
  match kindOf line with
  | .directive span => [span.finding number [span.text]]
  | _ => []

theorem checkFrom_sublist (seen : Bool) (lines : List (Nat × List Char)) :
    (checkFrom seen lines).Sublist (lines.flatMap fun numbered => checkLine numbered.1 numbered.2) := by
  induction lines generalizing seen with
  | nil => exact .slnil
  | cons numbered rest ih =>
    obtain ⟨number, line⟩ := numbered
    rw [List.flatMap_cons, checkFrom, checkLine]
    cases kindOf line with
    | blank => exact ih seen
    | statement => exact ih true
    | directive span =>
      cases seen with
      | true => exact (ih true).cons_cons _
      | false => exact (ih false).cons _

theorem indent_append_trim_prefix_line (line : List Char) :
    (codeOf line).takeWhile Text.isSpace ++ Text.trim (codeOf line) <+: line := by
  have trimmed := Text.trimEnd_prefix (Text.trimStart (codeOf line))
  refine ((List.prefix_append_right_inj _).mpr trimmed).trans ?_
  rw [Text.trimStart, List.takeWhile_append_dropWhile]
  exact codeOf_prefix_line line

theorem line_of_kindOf {line : List Char} {span : Span} (found : kindOf line = .directive span) :
    span.line = line := by
  have split := List.prefix_iff_eq_append.mp (indent_append_trim_prefix_line line)
  unfold kindOf at found
  simp only at found
  split at found
  · cases found
  · rename_i rest written
    split at found
    · cases found
      rw [written, List.length_append, List.length_cons, ← Nat.add_assoc] at split
      rw [Span.line, List.reverse_reverse]
      exact split
    · cases found
  · cases found

theorem checkLine_along (number : Nat) (line : List Char) :
    AlongLine number line (checkLine number line) := by
  unfold checkLine
  split
  · rename_i span found
    exact .singleton rfl span.start_le_stop (line_of_kindOf found ▸ span.stop_le_length)
  · exact .nil number line

end DirectivePosition

namespace CommentedCode

/-- A value that is there starts a run of its own or begins the run after it. -/
theorem runs_some {Item : Type} (item : Item) (rest : List (Option Item)) :
    runs (some item :: rest) = [item] :: runs rest ∨
      ∃ run others, runs rest = run :: others ∧ runs (some item :: rest) = (item :: run) :: others := by
  rw [runs.eq_def]
  simp only
  split
  · rename_i run others following
    exact .inr ⟨run, others, following, rfl⟩
  · exact .inl rfl

theorem flatten_runs {Item : Type} (items : List (Option Item)) : (runs items).flatten = items.filterMap id := by
  induction items with
  | nil => rfl
  | cons item rest ih =>
    cases item with
    | none => exact ih
    | some item =>
      rw [List.filterMap_cons_some (f := id) rfl, ← ih]
      rcases runs_some item rest with single | ⟨run, others, following, joined⟩
      · rw [single, List.flatten_cons, List.singleton_append]
      · rw [joined, following, List.flatten_cons, List.flatten_cons, List.cons_append]

theorem commentLine?_eq_some_iff {number : Nat} {line : List Char} {comment : CommentLine} :
    commentLine? number line = some comment ↔ Text.isBlank (codeOf line) = true ∧
      ∃ text, commentOf line = some text ∧ comment = ⟨number, (codeOf line).length, line.length, Text.trim text⟩ := by
  unfold commentLine? codeOf commentOf
  obtain ⟨code, comment⟩ := splitComment line
  cases comment with
  | none => simp
  | some text =>
    by_cases blank : Text.isBlank code = true
    · simp [blank, eq_comm]
    · simp [blank]

theorem column_le_of_commentLine? {number : Nat} {line : List Char} {comment : CommentLine}
    (found : commentLine? number line = some comment) :
    comment.number = number ∧ comment.length = line.length ∧ comment.column ≤ line.length := by
  obtain ⟨_, _, _, rfl⟩ := commentLine?_eq_some_iff.mp found
  exact ⟨rfl, rfl, (codeOf_prefix_line line).length_le⟩

-- The comment lines of a document, from top to bottom.
theorem flatten_blocks (document : Document) :
    (blocks document).flatten =
      document.numberedLines.filterMap fun numbered => commentLine? numbered.1 numbered.2 := by
  rw [blocks, flatten_runs, List.filterMap_map]
  rfl

theorem line_of_mem_blocks {document : Document} {comment : CommentLine} (mem : comment ∈ (blocks document).flatten) :
    ∃ line, document.lines[comment.number]? = some line ∧ comment.length = line.length ∧
      comment.column ≤ line.length := by
  rw [flatten_blocks] at mem
  obtain ⟨⟨number, line⟩, known, found⟩ := List.mem_filterMap.mp mem
  obtain ⟨rfl, length, column⟩ := column_le_of_commentLine? found
  exact ⟨line, Document.mem_numberedLines.mp known, length, column⟩

theorem blocks_pairwise (document : Document) :
    (blocks document).flatten.Pairwise fun earlier later => earlier.number < later.number := by
  rw [flatten_blocks]
  refine document.numberedLines_pairwise.filterMap _ ?_
  intro earlier later lt first found second foundToo
  rwa [(column_le_of_commentLine? found).1, (column_le_of_commentLine? foundToo).1]

/-- A block ranges from its first line, which may be its last one, to its last. -/
theorem blockRange?_eq_some {block : List CommentLine} {range : Range} (found : blockRange? block = some range)
    (ordered : block.Pairwise fun earlier later => earlier.number < later.number) :
    ∃ first ∈ block, ∃ last ∈ block, range = ⟨⟨first.number, first.column⟩, ⟨last.number, last.length⟩⟩ ∧
      (first = last ∨ first.number < last.number) := by
  unfold blockRange? at found
  split at found
  · rename_i first last starts ends
    cases found
    obtain ⟨rest, rfl⟩ := List.head?_eq_some_iff.mp starts
    have mem := List.mem_of_getLast? ends
    refine ⟨first, List.mem_cons_self, last, mem, rfl, ?_⟩
    rcases List.mem_cons.mp mem with rfl | later
    · exact .inl rfl
    · exact .inr ((List.pairwise_cons.mp ordered).1 last later)
  · cases found

theorem check_along (rule : CommentedCode) (document : Document) : Along document (Rule.check rule document) where
  within finding mem := by
    obtain ⟨block, known, reported⟩ := List.mem_filterMap.mp mem
    obtain ⟨range, found, rfl⟩ := Option.map_eq_some_iff.mp reported
    have known := List.mem_of_mem_filter known
    have inside {comment : CommentLine} (mem : comment ∈ block) :=
      line_of_mem_blocks (List.mem_flatten.mpr ⟨block, known, mem⟩)
    have ordered := (List.pairwise_flatten.mp (blocks_pairwise document)).1 block known
    obtain ⟨first, memFirst, last, memLast, rfl, between⟩ := blockRange?_eq_some found ordered
    obtain ⟨line, there, length, column⟩ := inside memFirst
    obtain ⟨lastLine, lastThere, lastLength, _⟩ := inside memLast
    refine ⟨?_, ⟨line, there, column⟩, ⟨lastLine, lastThere, Nat.le_of_eq lastLength⟩⟩
    rw [Position.le_iff]
    rcases between with rfl | lt
    · exact .inr ⟨rfl, length ▸ column⟩
    · exact .inl lt
  ordered := by
    -- Every line of a block stands above every line of a later one, so its last line does.
    obtain ⟨within, apart⟩ := List.pairwise_flatten.mp (blocks_pairwise document)
    refine List.pairwise_filterMap.mpr ((apart.filter rule.isCode).imp_of_mem ?_)
    intro earlier later memEarlier memLater apart left reported right reportedToo
    obtain ⟨range, found, rfl⟩ := Option.map_eq_some_iff.mp reported
    obtain ⟨next, foundNext, rfl⟩ := Option.map_eq_some_iff.mp reportedToo
    obtain ⟨first, memFirst, last, memLast, rfl, _⟩ :=
      blockRange?_eq_some found (within earlier (List.mem_of_mem_filter memEarlier))
    obtain ⟨nextFirst, memNextFirst, nextLast, _, rfl, _⟩ :=
      blockRange?_eq_some foundNext (within later (List.mem_of_mem_filter memLater))
    refine ⟨(Position.le_iff _ _).mpr (.inl (apart last memLast nextFirst memNextFirst)), fun same => ?_⟩
    exact Nat.ne_of_lt (apart first memFirst nextFirst memNextFirst) (congrArg Position.line same)

end CommentedCode

/-- What the first argument of a rule's findings says about the characters that they point at. -/
def BuiltinRule.Quotes (rule : BuiltinRule) (document : Document) (finding : Finding) : Prop :=
  match rule with
  | .yoLetter _ | .modalWindow _ | .serviceTag _ | .directivePosition _ =>
    ∃ text, finding.arguments.head? = some text ∧ document.covered? finding.range = some text.toList
  | .magicNumber _ =>
    ∃ text covered, finding.arguments.head? = some text ∧ document.covered? finding.range = some covered ∧
      text.toList = covered.filter fun char => !Text.isSpace char
  | .lineLength _ | .commentedCode _ => True

theorem quotes_span {document : Document} {number : Nat} {line : List Char} {span : Span}
    (there : document.lines[number]? = some line) (covered : (line.take span.stop).drop span.start = span.chars)
    (others : List String) :
    ∃ text, (span.finding number (span.text :: others)).arguments.head? = some text ∧
      document.covered? (span.finding number (span.text :: others)).range = some text.toList := by
  refine ⟨span.text, rfl, ?_⟩
  rw [Span.finding, Document.covered?_onLine there, covered, Span.text, String.toList_ofList]

theorem BuiltinRule.quotes (rule : BuiltinRule) {document : Document} {finding : Finding}
    (mem : finding ∈ Rule.check rule document) : rule.Quotes document finding := by
  cases rule with
  | lineLength => trivial
  | commentedCode => trivial
  | yoLetter =>
    obtain ⟨number, line, there, mem⟩ := mem_checkLines.mp mem
    obtain ⟨name, known, rfl⟩ := List.mem_map.mp mem
    exact quotes_span there (drop_take_of_mem_names (List.mem_of_mem_filter known)) []
  | modalWindow =>
    obtain ⟨number, line, there, mem⟩ := mem_checkLines.mp mem
    obtain ⟨name, known, found⟩ := List.mem_filterMap.mp mem
    obtain ⟨replacement, rfl⟩ := ModalWindow.checkName_eq_some found
    exact quotes_span there (drop_take_of_mem_names known) [replacement]
  | magicNumber rule =>
    obtain ⟨number, line, there, mem⟩ := mem_checkLines.mp mem
    unfold MagicNumber.checkLine at mem
    simp only at mem
    split at mem
    · cases mem
    · obtain ⟨span, known, rfl⟩ := List.mem_map.mp mem
      refine ⟨_, span.chars, rfl, ?_, ?_⟩
      · rw [Span.finding, Document.covered?_onLine there,
          drop_take_of_mem_signedNumbers (List.mem_of_mem_filter known)]
      · rw [String.toList_ofList, MagicNumber.numberText]
  | serviceTag rule =>
    obtain ⟨number, line, there, mem⟩ := mem_checkLines.mp mem
    obtain ⟨tag, found, rfl⟩ := Option.map_eq_some_iff.mp (Option.mem_toList.mp mem)
    exact quotes_span there (ServiceTag.line_of_tag? found ▸ tag.drop_take_line) []
  | directivePosition =>
    have mem := (DirectivePosition.checkFrom_sublist false _).subset mem
    obtain ⟨⟨number, line⟩, known, mem⟩ := List.mem_flatMap.mp mem
    unfold DirectivePosition.checkLine at mem
    split at mem
    · rename_i span found
      cases List.mem_singleton.mp mem
      have own : span.line = line := DirectivePosition.line_of_kindOf found
      exact quotes_span (Document.mem_numberedLines.mp known) (own ▸ span.drop_take_line) []
    · cases mem

theorem BuiltinRule.check_along (rule : BuiltinRule) (document : Document) :
    Along document (Rule.check rule document) := by
  cases rule with
  | lineLength rule => exact checkLines_along document rule.checkLine_along
  | serviceTag rule => exact checkLines_along document rule.checkLine_along
  | yoLetter => exact checkLines_along document YoLetter.checkLine_along
  | modalWindow => exact checkLines_along document ModalWindow.checkLine_along
  | magicNumber rule => exact checkLines_along document rule.checkLine_along
  | commentedCode rule => exact rule.check_along document
  | directivePosition =>
    exact (checkLines_along document DirectivePosition.checkLine_along).sublist
      (DirectivePosition.checkFrom_sublist false document.numberedLines)

/-- Every finding of a built-in rule in any state points into the document and quotes what it points at, and
the findings follow one another without overlap. -/
theorem BuiltinRule.check_points (rule : BuiltinRule) (document : Document) :
    (∀ finding ∈ Rule.check rule document, finding.range.Within document ∧ rule.Quotes document finding) ∧
      (Rule.check rule document).Pairwise fun left right => left.range.Precedes right.range := by
  obtain ⟨within, ordered⟩ := rule.check_along document
  exact ⟨fun finding mem => ⟨within finding mem, rule.quotes mem⟩, ordered⟩

end BslLint
