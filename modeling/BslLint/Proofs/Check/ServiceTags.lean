import BslLint.Check.ServiceTag
import BslLint.Proofs.Check.Configuring
import BslLint.Proofs.Pattern.Matching
import BslLint.Proofs.Pattern.GroupReading
import BslLint.Proofs.Source.Extent
import BslLint.Proofs.Text.Folding

/-! Service tags as whole words. The tags that parameters state are put into a larger pattern, which asks for ends of
words around them. Where they are an expression by themselves, the larger pattern matches exactly what it should. -/

set_option autoImplicit false

namespace BslLint.ServiceTag

open Source Pattern Pattern.Reader

def tagFlags : Flags :=
  { Flags.standard with anyCase := true }

/-- The expression that tags are by themselves, in any case. -/
def expression? (tags : String) : Option Pattern := do
  let (branches, rest) ← (readAlternatives (2 * tags.toList.length + 2)).run ⟨tags.toList, tagFlags, [], true⟩
  if rest.text.isEmpty then some (alternativesOf branches).pattern else none

def opening : List Char :=
  ['(', '?', 'i', ')', '(', '?', ':', '^', '|', '[', '^', '\\', 'w', ']', ')', '(']

def closing : List Char :=
  [')', '(', '?', ':', '[', '^', '\\', 'w', ']', '|', '$', ')']

theorem toList_opening : "(?i)(?:^|[^\\w])(".toList = opening := String.toList_ofList

theorem toList_closing : ")(?:[^\\w]|$)".toList = closing := String.toList_ofList

theorem patternText_eq (tags : String) : patternText tags = opening ++ (tags.toList ++ closing) := by
  unfold patternText
  simp only [toList_opening, toList_closing, List.append_assoc]

theorem closing_closes : Closes closing where
  starts := rfl
  oneLine := by decide

def notWord : CharSet :=
  .complement (.anyCase (.union .words .none))

def wordStart : Pattern :=
  .sequence .empty (.either (.assertion .textStart) (.charIn notWord))

def wordEnd : Pattern :=
  .either (.charIn notWord) (.assertion .textEnd)

/-- An expression between ends of the text or characters that are not part of a word. -/
def around (expression : Pattern) : Pattern :=
  .sequence (.sequence wordStart (.marked expression)) wordEnd

theorem bind_of_eq {Value Other : Type} {reader : Reader Value} {next : Value → Reader Other} {reading rest : Reading}
    {value : Value} (read : reader reading = some (value, rest)) : (reader >>= next) reading = next value rest := by
  show Option.bind (reader reading) _ = _
  rw [read]
  rfl

theorem exists_of_bind {Value Other : Type} {reader : Reader Value} {next : Value → Reader Other}
    {reading rest : Reading} {value : Other} (read : (reader >>= next) reading = some (value, rest)) :
    ∃ first middle, reader reading = some (first, middle) ∧ next first middle = some (value, rest) := by
  obtain ⟨⟨first, middle⟩, early, late⟩ := Option.bind_eq_some_iff.mp read
  exact ⟨first, middle, early, late⟩

theorem readParts_opening (fuel : Nat) (text : List Char) :
    readParts (fuel + 8) [] ⟨opening ++ text, .standard, [], false⟩ =
      readParts (fuel + 6) [.pattern ⟨.either (.assertion .textStart) (.charIn notWord), 3⟩, .flags]
        ⟨'(' :: text, tagFlags, [], false⟩ := rfl

theorem readParts_closing (fuel : Nat) (parts : List Part) (names : List (List Char)) (captured : Bool) :
    readParts (fuel + 8) parts ⟨closing.tail, tagFlags, names, captured⟩ =
      some (.pattern ⟨.either (.charIn notWord) (.assertion .textEnd), 3⟩ :: parts, ⟨[], tagFlags, names, captured⟩) :=
  rfl

/-- Nothing that a question mark could repeat stands before the first part. -/
theorem readAlternatives_question (fuel : Nat) (text : List Char) :
    readAlternatives (fuel + 2) ⟨'?' :: text, tagFlags, [], true⟩ = none := by
  have parts : readParts (fuel + 1) [] ⟨'?' :: text, tagFlags, [], true⟩ = none := by
    show (passLazy ⟨text, tagFlags, [], true⟩).bind (fun _ => none) = none
    cases passLazy ⟨text, tagFlags, [], true⟩ <;> rfl
  show (readParts (fuel + 1) [] ⟨'?' :: text, tagFlags, [], true⟩).bind _ = none
  rw [parts]
  rfl

theorem passText?_question {text : List Char} (other : text.head? ≠ some '?') {expected : String}
    (question : expected.toList.head? = some '?') :
    passText? expected ⟨text, tagFlags, [], false⟩ = some (false, ⟨text, tagFlags, [], false⟩) := by
  have none : Text.stripPrefix? expected.toList text = none := by
    cases stripped : Text.stripPrefix? expected.toList text with
    | none => rfl
    | some rest =>
      rw [(Text.stripPrefix?_eq_some_iff ..).mp stripped, List.head?_append, question] at other
      exact absurd rfl other
  rw [passText?, bind_of_eq (show (get : Reader Reading) ⟨text, tagFlags, [], false⟩ = some (_, _) from rfl), none]
  rfl

theorem readGroupOpening_capture {text : List Char} (other : text.head? ≠ some '?') :
    readGroupOpening ⟨'(' :: text, tagFlags, [], false⟩ =
      some (.group tagFlags true, ⟨text, tagFlags, [], true⟩) := by
  have rejects (lookarounds : List String) (questions : ∀ text ∈ lookarounds, text.toList.head? = some '?') :
      (forIn lookarounds PUnit.unit fun lookaround _ => do
        if ← passText? lookaround then
          fail
          return ForInStep.yield PUnit.unit
        else return ForInStep.yield PUnit.unit : Reader PUnit) ⟨text, tagFlags, [], false⟩ =
      some (PUnit.unit, ⟨text, tagFlags, [], false⟩) := by
    induction lookarounds with
    | nil => rfl
    | cons lookaround others ih =>
      rw [List.forIn_cons, bind_assoc, bind_of_eq (passText?_question other (questions _ List.mem_cons_self))]
      exact ih fun text mem => questions text (List.mem_cons_of_mem _ mem)
  unfold readGroupOpening
  rw [bind_of_eq (show passWithSpace ⟨'(' :: text, tagFlags, [], false⟩ = some ((), ⟨text, tagFlags, [], false⟩) from rfl),
    bind_of_eq (rejects _ (by decide)), bind_of_eq (passText?_question other rfl),
    bind_of_eq (passText?_question other rfl)]
  simp only [Bool.or_self, Bool.false_eq_true, if_false]
  rw [bind_of_eq (passText?_question other rfl)]
  rfl

def afterOpening (fuel : Nat) (parts : List Part) : Opening → Reader (List Part)
  | .flags flags => setFlags flags >>= fun _ => readParts fuel (.flags :: parts)
  | .group flags first => do
    setFlags flags
    let inner := alternativesOf (← readAlternatives fuel)
    setFlags tagFlags
    expect ')'
    let pattern := if first then .marked inner.pattern else inner.pattern
    readParts fuel (.pattern ⟨pattern, inner.depth + 1⟩ :: parts)

theorem readParts_group {text : List Char} (other : text.head? ≠ some '?') {fuel : Nat} {branches : List Sized}
    {rest : Reading} (read : readAlternatives fuel ⟨text, tagFlags, [], true⟩ = some (branches, rest))
    (parts : List Part) :
    readParts (fuel + 1) parts ⟨'(' :: text, tagFlags, [], false⟩ =
      (expect ')' >>= fun _ => readParts fuel
        (.pattern ⟨.marked (alternativesOf branches).pattern, (alternativesOf branches).depth + 1⟩ :: parts))
        { rest with flags := tagFlags } := by
  have opens : readParts (fuel + 1) parts ⟨'(' :: text, tagFlags, [], false⟩ =
      (readGroupOpening >>= afterOpening fuel parts) ⟨'(' :: text, tagFlags, [], false⟩ := by
    rw [readParts]
    rfl
  have sets : setFlags tagFlags ⟨text, tagFlags, [], true⟩ = some ((), ⟨text, tagFlags, [], true⟩) := rfl
  rw [opens, bind_of_eq (readGroupOpening_capture other), afterOpening, bind_of_eq sets, bind_of_eq read]
  rfl

theorem expression?_eq_some {tags : String} {expression : Pattern} (alone : expression? tags = some expression) :
    ∃ branches rest, readAlternatives (2 * tags.toList.length + 2) ⟨tags.toList, tagFlags, [], true⟩ =
      some (branches, rest) ∧ rest.text = [] ∧ (alternativesOf branches).pattern = expression := by
  obtain ⟨⟨branches, rest⟩, read, whole⟩ := Option.bind_eq_some_iff.mp alone
  dsimp only at whole
  split at whole
  · rename_i none
    cases whole
    exact ⟨branches, rest, read, List.isEmpty_iff.mp none, rfl⟩
  · cases whole

/-- Inside the larger pattern, tags that are an expression by themselves are read as that expression. -/
theorem readParts_around {tags : String} {branches : List Sized} {rest : Reading}
    (read : readAlternatives (2 * tags.toList.length + 2) ⟨tags.toList, tagFlags, [], true⟩ = some (branches, rest))
    (whole : rest.text = []) {parts : List Part} {last : Reading}
    (accepted : readParts (2 * tags.toList.length + 57) [] ⟨patternText tags, .standard, [], false⟩ =
      some (parts, last)) :
    (sequenceOf parts.reverse).pattern = around (alternativesOf branches).pattern ∧ last.text = [] := by
  have other : (tags.toList ++ closing).head? ≠ some '?' := by
    cases text : tags.toList with
    | nil => decide
    | cons first others =>
      rintro ⟨⟩
      rw [text, readAlternatives_question] at read
      cases read
  have follows : 2 * tags.toList.length + 2 ≤ 2 * tags.toList.length + 54 := by omega
  obtain ⟨left, goesOn, inside⟩ := (readAlternatives_agrees closing_closes follows).1 _ trivial _ (.inr rfl) _ _ read
  rw [patternText_eq, readParts_opening, readParts_group other inside] at accepted
  rw [whole] at goesOn
  rcases goesOn with rfl | rfl
  · cases accepted
  · have closes : expect ')' ⟨closing, tagFlags, rest.names, rest.captured⟩ =
        some ((), ⟨closing.tail, tagFlags, rest.names, rest.captured⟩) := rfl
    rw [List.nil_append, bind_of_eq closes, readParts_closing] at accepted
    cases accepted
    exact ⟨rfl, rfl⟩

theorem ofText?_eq_some {text : List Char} {pattern : Pattern} (accepted : ofText? text = some pattern) :
    ∃ branches rest, readAlternatives (2 * text.length + 2) ⟨text, .standard, [], false⟩ = some (branches, rest) ∧
      (alternativesOf branches).pattern = pattern := by
  obtain ⟨⟨branches, rest⟩, read, whole⟩ := Option.bind_eq_some_iff.mp accepted
  dsimp only at whole
  split at whole
  · cases whole
    exact ⟨branches, rest, read, rfl⟩
  · cases whole

theorem length_patternText (tags : String) : (patternText tags).length = tags.toList.length + 28 := by
  rw [patternText_eq, List.length_append, List.length_append]
  show 16 + (tags.toList.length + 12) = _
  omega

theorem pattern_eq_around {tags : String} {expression pattern : Pattern} (alone : expression? tags = some expression)
    (accepted : patternOf? tags = some pattern) : pattern = around expression := by
  obtain ⟨branches, rest, read, whole, rfl⟩ := expression?_eq_some alone
  rw [patternOf?] at accepted
  have around := @readParts_around tags branches rest read whole
  generalize text : patternText tags = start at accepted around
  obtain ⟨all, last, readAll, rfl⟩ := ofText?_eq_some accepted
  have length : 2 * start.length + 2 = 2 * tags.toList.length + 57 + 1 := by
    rw [← text, length_patternText]
    omega
  rw [length, readAlternatives] at readAll
  obtain ⟨parts, middle, first, others⟩ := exists_of_bind readAll
  obtain ⟨sequenced, none⟩ := around first
  have looks : peek? middle = some (Option.none, middle) := by
    show some (middle.text.head?, middle) = _
    rw [none, List.head?_nil]
  dsimp only at others
  rw [bind_of_eq looks] at others
  cases others
  exact sequenced

theorem contains_notWord (char : Char) : notWord.contains char = !Text.isWord char := by
  have plain (char : Char) : (CharSet.union .words .none).contains char = Text.isWord char := by
    show (CharSet.words.contains char || ([] : List Char).contains char) = Text.isWord char
    rw [CharSet.contains_words, List.contains_nil, Bool.or_false]
  show (!((CharSet.union .words .none).contains char ||
    (Text.caseVariants char).any (CharSet.union .words .none).contains)) = _
  rw [plain]
  cases word : Text.isWord char with
  | true => rfl
  | false =>
    have none : (Text.caseVariants char).any (CharSet.union .words .none).contains = false := by
      apply List.any_eq_false.mpr
      intro variant mem
      rw [plain, Text.isWord_of_mem_caseVariants mem, word]
      exact Bool.false_ne_true
    rw [none]
    rfl

/-- A part of a text that an expression matches as a whole word: an end of the text or a character that is not part of a
word stands on either side. -/
structure Delimited (expression : Pattern) (text : List Char) (tag : Span) : Prop where
  part : tag.line = text
  matched : Matches text expression tag.start tag.stop
  before : ∀ char ∈ tag.before.head?, Text.isWord char = false
  after : ∀ char ∈ tag.after.head?, Text.isWord char = false

variable {expression : Pattern} {text : List Char}

theorem exists_wordStart_iff {offset : Nat} (inside : offset ≤ text.length) :
    (∃ start, start ≤ text.length ∧ Matches text wordStart start offset) ↔
      ∀ char ∈ (text.take offset).reverse.head?, Text.isWord char = false := by
  cases offset with
  | zero =>
    refine iff_of_true ⟨0, Nat.zero_le _, 0, rfl, .inl ⟨rfl, rfl⟩⟩ ?_
    simp
  | succ offset =>
    have last : (text.take (offset + 1)).reverse.head? = some text[offset] := by
      rw [List.head?_reverse, List.getLast?_eq_getElem?, List.length_take, Nat.min_eq_left inside]
      simp
    rw [last]
    constructor
    · rintro ⟨start, _, _, rfl, ⟨rfl, atStart⟩ | ⟨same, char, found, other⟩⟩
      · have none : text.take (offset + 1) = [] := List.reverse_eq_nil_iff.mp (List.isEmpty_iff.mp atStart)
        rw [none] at last
        cases last
      · cases same
        rw [List.getElem?_eq_getElem inside] at found
        cases found
        rw [contains_notWord] at other
        simpa using other
    · intro other
      refine ⟨offset, Nat.le_of_succ_le inside, offset, rfl, .inr ⟨rfl, _, List.getElem?_eq_getElem inside, ?_⟩⟩
      rw [contains_notWord, other _ rfl]
      rfl

theorem exists_wordEnd_iff (text : List Char) (offset : Nat) :
    (∃ stop, Matches text wordEnd offset stop) ↔ ∀ char ∈ (text.drop offset).head?, Text.isWord char = false := by
  rw [List.head?_drop]
  constructor
  · rintro ⟨stop, ⟨rfl, char, found, other⟩ | ⟨rfl, atEnd⟩⟩
    · rw [contains_notWord] at other
      simpa [found] using other
    · rw [← List.head?_drop, List.isEmpty_iff.mp atEnd]
      simp
  · intro other
    cases found : text[offset]? with
    | none => exact ⟨offset, .inr ⟨rfl, List.isEmpty_iff.mpr (List.drop_eq_nil_of_le (List.getElem?_eq_none_iff.mp found))⟩⟩
    | some char =>
      refine ⟨offset + 1, .inl ⟨rfl, char, found, ?_⟩⟩
      rw [contains_notWord, other char (by simp [found])]
      rfl

theorem mark_of_mem_wordEnd {place stop : Place} (mem : stop ∈ ends wordEnd place) : stop.mark = place.mark := by
  rcases List.mem_append.mp ((distinct_sublist _).subset mem) with other | atEnd
  · simp only [ends] at other
    split at other
    · have next := Option.mem_toList.mp other
      unfold Place.next? at next
      split at next
      · cases next
      · cases next
        rfl
    · cases other
  · simp only [ends] at atEnd
    split at atEnd
    · rw [List.mem_singleton.mp atEnd]
    · cases atEnd

theorem delimited_of_mem_ends {start stop : Place} (on : start.On text) (mem : stop ∈ ends (around expression) start) :
    ∃ tag, stop.mark = some tag ∧ Delimited expression text tag := by
  obtain ⟨marked, memMarked, last⟩ := List.mem_flatMap.mp ((distinct_sublist _).subset mem)
  obtain ⟨opened, memOpened, memTag⟩ := List.mem_flatMap.mp ((distinct_sublist _).subset memMarked)
  obtain ⟨closed, memClosed, rfl⟩ := List.mem_map.mp memTag
  have begins := (ends_leadsOn text _ start on opened memOpened).1
  have reached := ends_leadsOn text _ opened begins closed memClosed
  have ends := (Place.On.marked reached (begins.line_spanTo reached)).1
  have mark := mark_of_mem_wordEnd last
  refine ⟨_, mark, begins.line_spanTo reached, ?_, ?_, ?_⟩
  · rw [begins.start_spanTo, begins.stop_spanTo reached]
    exact (finds_ends text expression opened begins _).mp ⟨closed, memClosed, rfl⟩
  · rw [Place.spanTo, begins.before_eq]
    exact (exists_wordStart_iff begins.offset_le).mp
      ⟨_, on.offset_le, (finds_ends text wordStart start on _).mp ⟨opened, memOpened, rfl⟩⟩
  · rw [Place.spanTo, reached.1.after_eq]
    exact (exists_wordEnd_iff text closed.offset).mp ⟨_, (finds_ends text wordEnd _ ends _).mp ⟨stop, last, rfl⟩⟩

theorem Delimited.occurs {tag : Span} (delimited : Delimited expression text tag) : Occurs text (around expression) := by
  obtain ⟨rfl, matched, before, after⟩ := delimited
  rw [tag.before_eq] at before
  rw [tag.after_eq] at after
  have inside := Nat.le_trans tag.start_le_stop tag.stop_le_length
  obtain ⟨start, within, starts⟩ := (exists_wordStart_iff inside).mpr before
  obtain ⟨stop, ends⟩ := (exists_wordEnd_iff tag.line tag.stop).mpr after
  exact ⟨start, stop, within, tag.stop, ⟨tag.start, starts, matched⟩, ends⟩

/-- The marked part of the first match is a whole word, and there is one exactly if there is a whole word. -/
theorem findMarked?_around (expression : Pattern) (text : List Char) :
    (∀ tag, findMarked? (around expression) text = some tag → Delimited expression text tag) ∧
      ((findMarked? (around expression) text).isSome = true ↔ ∃ tag, Delimited expression text tag) := by
  have finds (tag : Span) (found : findMarked? (around expression) text = some tag) :
      Delimited expression text tag := by
    obtain ⟨stop, searched, mark⟩ := Option.bind_eq_some_iff.mp found
    obtain ⟨start, on, _, mem⟩ := exists_start_of_searchFrom rfl searched
    obtain ⟨marked, same, delimited⟩ := delimited_of_mem_ends on mem
    cases mark.symm.trans same
    exact delimited
  refine ⟨finds, ?_, ?_⟩
  · intro found
    obtain ⟨tag, found⟩ := Option.isSome_iff_exists.mp found
    exact ⟨tag, finds tag found⟩
  · rintro ⟨tag, delimited⟩
    obtain ⟨stop, searched⟩ := Option.isSome_iff_exists.mp ((search_isSome_iff _ _).mpr delimited.occurs)
    obtain ⟨start, on, _, mem⟩ := exists_start_of_searchFrom rfl searched
    obtain ⟨marked, mark, _⟩ := delimited_of_mem_ends on mem
    rw [findMarked?, searched, Option.bind_some, mark]
    rfl

theorem patternOf_eq_ok_iff {tags : String} {pattern : Pattern} :
    patternOf tags = .ok pattern ↔ Text.isBlank tags.toList = false ∧ patternOf? tags = some pattern := by
  unfold patternOf
  cases Text.isBlank tags.toList with
  | true => simp
  | false => cases patternOf? tags <;> simp

/-- Parameters that state tags are accepted with the pattern of these tags. -/
theorem runConfigure_eq_ok_iff {parameters : Parameters} {tags : String} {fresh rule : ServiceTag}
    (stated : Dictionary.get? parameters tagsKey = some (.string tags)) :
    Rule.runConfigure parameters fresh = (.ok (), rule) ↔
      parameters.onlyKnown [tagsKey] = .ok () ∧ patternOf tags = .ok rule.pattern := by
  have run : Rule.runConfigure parameters fresh = Rule.settle (decision parameters) fresh := settles parameters fresh
  obtain ⟨pattern⟩ := rule
  rw [run, Rule.settle_eq_ok_iff, decision, Parameters.nullable?_of_string stated]
  simp [Except.bind_eq_ok_iff, pure, Except.pure, Unique.exists_iff]

def inLine (line : List Char) (tag : Span) : Span :=
  { tag with before := tag.before ++ '/' :: '/' :: (codeOf line).reverse }

/-- Findings that report an expression where a comment has it as a whole word, once on each line that has it so. -/
structure ReportsWords (expression : Pattern) (document : Document) (findings : List Finding) : Prop where
  words : ∀ finding ∈ findings, ∃ number line comment tag, document.lines[number]? = some line ∧
    commentOf line = some comment ∧ Delimited expression comment tag ∧
    finding = (inLine line tag).finding number [tag.text]
  single : findings.Pairwise fun earlier later => earlier.range.start.line < later.range.start.line
  complete : ∀ {number : Nat} {line comment : List Char} {tag : Span}, document.lines[number]? = some line →
    commentOf line = some comment → Delimited expression comment tag →
    ∃ finding ∈ findings, finding.range.start.line = number

theorem tag?_eq (rule : ServiceTag) (line : List Char) :
    rule.tag? line = (commentOf line).bind fun comment => (rule.pattern.findMarked? comment).map (inLine line) := by
  unfold tag? commentOf inLine codeOf
  rcases splitComment line with ⟨code, _ | comment⟩ <;> rfl

theorem mem_checkLine {rule : ServiceTag} {number : Nat} {line : List Char} {finding : Finding} :
    finding ∈ rule.checkLine number line ↔ ∃ comment tag, commentOf line = some comment ∧
      rule.pattern.findMarked? comment = some tag ∧ finding = (inLine line tag).finding number [tag.text] := by
  rw [checkLine, Option.mem_toList, Option.map_eq_some_iff, tag?_eq]
  constructor
  · rintro ⟨_, found, rfl⟩
    obtain ⟨comment, commented, known⟩ := Option.bind_eq_some_iff.mp found
    obtain ⟨tag, marked, rfl⟩ := Option.map_eq_some_iff.mp known
    exact ⟨comment, tag, commented, marked, rfl⟩
  · rintro ⟨comment, tag, commented, found, rfl⟩
    refine ⟨inLine line tag, ?_, rfl⟩
    rw [commented, Option.bind_some, found]
    rfl

theorem checkLine_pairwise (rule : ServiceTag) (number : Nat) (line : List Char) :
    (rule.checkLine number line).Pairwise fun earlier later => earlier.range.start.line < later.range.start.line := by
  unfold checkLine
  cases rule.tag? line with
  | none => exact .nil
  | some tag => exact List.pairwise_singleton _ _

end BslLint.ServiceTag
