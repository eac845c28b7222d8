import BslLint.Proofs.Check.CodeTexts
import BslLint.Proofs.Check.EmptyLines
import BslLint.Proofs.Items

/-! Which blocks of comments are reported. A block is a longest run of lines that hold nothing but a comment. It is
reported as a whole, and once, when it has text and enough of its texts look like code. -/

set_option autoImplicit false

namespace BslLint

open Source

namespace CommentedCode

section

variable {Item : Type} {run : List Item}

theorem runs_map_some (nonempty : run ≠ []) : runs (run.map some) = [run] := by
  induction run with
  | nil => exact absurd rfl nonempty
  | cons item rest ih =>
    cases rest with
    | nil => rfl
    | cons next others =>
      rw [List.map_cons, runs.eq_def]
      simp only [ih (List.cons_ne_nil _ _)]
      rfl

theorem exists_map_some {items : List (Option Item)} (full : none ∉ items) : ∃ run : List Item, items = run.map some := by
  induction items with
  | nil => exact ⟨[], rfl⟩
  | cons item rest ih =>
    rw [List.mem_cons, not_or] at full
    obtain ⟨value, rfl⟩ := Option.ne_none_iff_exists'.mp (Ne.symm full.1)
    obtain ⟨run, rfl⟩ := ih full.2
    exact ⟨value :: run, rfl⟩

theorem eq_of_mem_runs_map_some {leading : List Item} (mem : run ∈ runs (leading.map some)) :
    run = leading ∧ leading ≠ [] := by
  have nonempty : leading ≠ [] := by
    rintro rfl
    cases mem
  rw [runs_map_some nonempty, List.mem_singleton] at mem
  exact ⟨mem, nonempty⟩

structure Longest (before : List (Option Item)) (run : List Item) (after : List (Option Item)) : Prop where
  nonempty : run ≠ []
  starts : ∀ item ∈ before.getLast?, item = none
  ends : ∀ item ∈ after.head?, item = none

theorem Longest.mem_runs {before after : List (Option Item)} (longest : Longest before run after) :
    run ∈ runs (before ++ (run.map some ++ after)) := by
  have leads : run ∈ runs (run.map some ++ after) := by
    cases after with
    | nil => simp [runs_map_some longest.nonempty]
    | cons item more =>
      rw [longest.ends item rfl, runs_append_none, runs_map_some longest.nonempty]
      exact List.mem_cons_self
  -- The last item in front of the run is a gap, behind which the runs start anew.
  rcases last_is_separator_iff.mp longest.starts with rfl | ⟨earlier, rfl⟩
  · exact leads
  · rw [List.append_assoc, List.singleton_append, runs_append_none]
    exact List.mem_append_right _ leads

theorem exists_longest {items : List (Option Item)} (mem : run ∈ runs items) :
    ∃ before after, items = before ++ (run.map some ++ after) ∧ Longest before run after := by
  induction items using separated_induction none with
  | single items full =>
    obtain ⟨leading, rfl⟩ := exists_map_some full
    obtain ⟨rfl, nonempty⟩ := eq_of_mem_runs_map_some mem
    exact ⟨[], [], by simp, nonempty, nofun, nofun⟩
  | further first rest full ih =>
    obtain ⟨leading, rfl⟩ := exists_map_some full
    rw [runs_append_none, List.mem_append] at mem
    rcases mem with mem | mem
    · obtain ⟨rfl, nonempty⟩ := eq_of_mem_runs_map_some mem
      exact ⟨[], none :: rest, rfl, nonempty, nofun, by simp⟩
    · obtain ⟨before, after, rfl, longest⟩ := ih mem
      exact ⟨leading.map some ++ none :: before, after, by simp, longest.nonempty,
        getLast?_append_separator longest.starts _, longest.ends⟩

theorem mem_runs_iff {items : List (Option Item)} : run ∈ runs items ↔
    ∃ before after, items = before ++ (run.map some ++ after) ∧ Longest before run after := by
  constructor
  · exact exists_longest
  · rintro ⟨before, after, rfl, longest⟩
    exact longest.mem_runs

end

def OnlyComment (line : List Char) : Prop :=
  Text.isBlank (codeOf line) = true ∧ commentOf line ≠ none

theorem commentLine?_eq_none_iff {number : Nat} {line : List Char} :
    commentLine? number line = none ↔ ¬OnlyComment line := by
  rw [Option.eq_none_iff_forall_ne_some, OnlyComment, Option.ne_none_iff_exists']
  constructor
  · rintro other ⟨blank, text, commented⟩
    exact other _ (commentLine?_eq_some_iff.mpr ⟨blank, text, commented, rfl⟩)
  · intro other comment found
    obtain ⟨blank, text, commented, _⟩ := commentLine?_eq_some_iff.mp found
    exact other ⟨blank, text, commented⟩

end CommentedCode

namespace Document

theorem map_snd_number (first : Nat) (lines : List (List Char)) : (number first lines).map Prod.snd = lines := by
  induction lines generalizing first with
  | nil => rfl
  | cons line rest ih => rw [number, List.map_cons, ih]

theorem length_number (first : Nat) (lines : List (List Char)) : (number first lines).length = lines.length := by
  rw [← List.length_map, map_snd_number]

theorem head?_number (first : Nat) (lines : List (List Char)) :
    (number first lines).head? = lines.head?.map fun line => (first, line) := by
  cases lines <;> rfl

theorem getLast?_number (first : Nat) (lines : List (List Char)) :
    (number first lines).getLast? = lines.getLast?.map fun line => (first + (lines.length - 1), line) := by
  rcases List.eq_nil_or_concat lines with rfl | ⟨earlier, line, rfl⟩
  · rfl
  · simp [number_append, number]

-- Numbered lines are divided where the lines are.
theorem number_eq_append {first : Nat} {lines : List (List Char)} {left right : List (Nat × List Char)}
    (split : number first lines = left ++ right) : ∃ above below, lines = above ++ below ∧
      left = number first above ∧ right = number (first + above.length) below := by
  have both := map_snd_number first lines
  rw [split, List.map_append] at both
  rw [← both, number_append] at split
  have length : left.length = (number first (left.map Prod.snd)).length := by
    rw [length_number, List.length_map]
  obtain ⟨same, rest⟩ := List.append_inj split.symm length
  exact ⟨_, _, both.symm, same, rest⟩

end Document

namespace CommentedCode

/-- A longest run of lines of a document that hold nothing but a comment, between the lines above and below it. -/
structure CommentBlock (document : Document) (above block below : List (List Char)) : Prop where
  split : document.lines = above ++ (block ++ below)
  nonempty : block ≠ []
  comments : ∀ line ∈ block, OnlyComment line
  above : ∀ line ∈ above.getLast?, ¬OnlyComment line
  below : ∀ line ∈ below.head?, ¬OnlyComment line

def ReadFrom (first : Nat) (lines : List (List Char)) (comments : List CommentLine) : Prop :=
  comments.map some = (Document.number first lines).map fun numbered => commentLine? numbered.1 numbered.2

theorem readFrom_cons_iff {first : Nat} {line : List Char} {rest : List (List Char)} {comments : List CommentLine} :
    ReadFrom first (line :: rest) comments ↔ ∃ comment others, comments = comment :: others ∧
      commentLine? first line = some comment ∧ ReadFrom (first + 1) rest others := by
  unfold ReadFrom
  cases comments with
  | nil => simp [Document.number]
  | cons comment others => simp [Document.number, eq_comm]

theorem exists_readFrom {lines : List (List Char)} (comments : ∀ line ∈ lines, OnlyComment line) (first : Nat) :
    ∃ read, ReadFrom first lines read := by
  induction lines generalizing first with
  | nil => exact ⟨[], rfl⟩
  | cons line rest ih =>
    obtain ⟨others, read⟩ := ih (fun other mem => comments other (List.mem_cons_of_mem _ mem)) (first + 1)
    obtain ⟨blank, commented⟩ := comments line List.mem_cons_self
    obtain ⟨text, commented⟩ := Option.ne_none_iff_exists'.mp commented
    have found : commentLine? first line = some _ := commentLine?_eq_some_iff.mpr ⟨blank, text, commented, rfl⟩
    exact ⟨_, readFrom_cons_iff.mpr ⟨_, others, rfl, found, read⟩⟩

theorem ReadFrom.onlyComment {first : Nat} {lines : List (List Char)} {read : List CommentLine}
    (found : ReadFrom first lines read) : ∀ line ∈ lines, OnlyComment line := by
  intro line mem
  rw [← Document.map_snd_number first lines] at mem
  obtain ⟨⟨number, _⟩, inside, rfl⟩ := List.mem_map.mp mem
  by_contra other
  have gap : none ∈ read.map some := by
    rw [found]
    exact List.mem_map.mpr ⟨_, inside, commentLine?_eq_none_iff.mpr other⟩
  simp at gap

/-- What is read of the lines around a block is no comment next to it. -/
theorem longest_iff {document : Document} {above block below : List (List Char)} {read : List CommentLine}
    (split : document.lines = above ++ (block ++ below)) (found : ReadFrom above.length block read) :
    Longest ((Document.number 0 above).map fun numbered => commentLine? numbered.1 numbered.2) read
        ((Document.number (above.length + block.length) below).map fun numbered =>
          commentLine? numbered.1 numbered.2) ↔
      CommentBlock document above block below := by
  have nonempty : read ≠ [] ↔ block ≠ [] := by
    have lengths := congrArg List.length found
    rw [List.length_map, List.length_map, Document.length_number] at lengths
    rw [← List.length_pos_iff, ← List.length_pos_iff, lengths]
  have starts : (∀ item ∈ ((Document.number 0 above).map fun numbered =>
      commentLine? numbered.1 numbered.2).getLast?, item = none) ↔ ∀ line ∈ above.getLast?, ¬OnlyComment line := by
    rw [List.getLast?_map, Document.getLast?_number]
    cases above.getLast? <;> simp [commentLine?_eq_none_iff]
  have ends : (∀ item ∈ ((Document.number (above.length + block.length) below).map fun numbered =>
      commentLine? numbered.1 numbered.2).head?, item = none) ↔ ∀ line ∈ below.head?, ¬OnlyComment line := by
    cases below <;> simp [Document.number, commentLine?_eq_none_iff]
  constructor
  · intro longest
    exact ⟨split, nonempty.mp longest.nonempty, found.onlyComment, starts.mp longest.starts, ends.mp longest.ends⟩
  · intro isBlock
    exact ⟨nonempty.mpr isBlock.nonempty, starts.mpr isBlock.above, ends.mpr isBlock.below⟩

theorem mem_blocks_iff {document : Document} {run : List CommentLine} : run ∈ blocks document ↔
    ∃ above block below, CommentBlock document above block below ∧ ReadFrom above.length block run := by
  have read : blocks document =
    runs (document.numberedLines.map fun numbered => commentLine? numbered.1 numbered.2) := rfl
  rw [read, mem_runs_iff]
  constructor
  · rintro ⟨before, after, divided, longest⟩
    obtain ⟨numberedAbove, rest, lines, rfl, further⟩ := List.map_eq_append_iff.mp divided
    obtain ⟨numberedBlock, numberedBelow, rfl, read, rfl⟩ := List.map_eq_append_iff.mp further
    obtain ⟨above, others, split, rfl, rest⟩ := Document.number_eq_append lines
    obtain ⟨block, below, rfl, rfl, rfl⟩ := Document.number_eq_append rest.symm
    rw [Nat.zero_add] at read longest
    exact ⟨above, block, below, (longest_iff split read.symm).mp longest, read.symm⟩
  · rintro ⟨above, block, below, isBlock, read⟩
    refine ⟨_, _, ?_, (longest_iff isBlock.split read).mpr isBlock⟩
    rw [Document.numberedLines, isBlock.split, Document.number_append, Document.number_append, List.map_append,
      List.map_append, read, Nat.zero_add]

/-- The texts of the comments on lines. Blank ones do not count. -/
def texts (lines : List (List Char)) : List (List Char) :=
  (lines.filterMap commentOf).filter fun text => !Text.isBlank text

/-- A block that has text, of which enough looks like code. -/
structure Disabled (rule : CommentedCode) (block : List (List Char)) : Prop where
  written : texts block ≠ []
  enough : rule.threshold ≤
    share ((texts block).countP fun text => looksLikeCode (Text.trim text)) (texts block).length

/-- From the comment mark of the first line of a block to the end of its last line. -/
def Covers (above block : List (List Char)) (range : Range) : Prop :=
  ∃ first last, block.head? = some first ∧ block.getLast? = some last ∧
    range = ⟨⟨above.length, (codeOf first).length⟩, ⟨above.length + (block.length - 1), last.length⟩⟩

variable {rule : CommentedCode} {first : Nat} {block : List (List Char)} {read : List CommentLine}

theorem ReadFrom.texts (found : ReadFrom first block read) :
    read.map CommentLine.text = (block.filterMap commentOf).map Text.trim := by
  induction block generalizing first read with
  | nil => rw [List.map_eq_nil_iff.mp found]; rfl
  | cons line rest ih =>
    obtain ⟨comment, others, rfl, here, below⟩ := readFrom_cons_iff.mp found
    obtain ⟨_, text, commented, rfl⟩ := commentLine?_eq_some_iff.mp here
    rw [List.map_cons, ih below, List.filterMap_cons_some commented, List.map_cons]

theorem ReadFrom.writtenTexts_eq (found : ReadFrom first block read) :
    writtenTexts read = (CommentedCode.texts block).map Text.trim := by
  -- What is kept of the trimmed texts is what was not blank before they were trimmed.
  have visible : ((fun text => text != []) ∘ Text.trim) = fun text => !Text.isBlank text := by
    funext text
    rw [Function.comp_apply, bne, Bool.not_inj_iff, Bool.eq_iff_iff, beq_iff_eq, Text.trim_eq_nil_iff]
  rw [writtenTexts, found.texts, List.filter_map, visible, CommentedCode.texts]

theorem ReadFrom.isCode_iff (found : ReadFrom first block read) : rule.isCode read = true ↔ rule.Disabled block := by
  have opened : rule.isCode read = (!(writtenTexts read).isEmpty &&
    decide (rule.threshold ≤ share ((writtenTexts read).countP looksLikeCode) (writtenTexts read).length)) := rfl
  rw [opened, found.writtenTexts_eq, List.countP_map, List.length_map]
  simp only [Bool.and_eq_true, Bool.not_eq_true', List.isEmpty_eq_false_iff, decide_eq_true_eq, ne_eq,
    List.map_eq_nil_iff]
  exact ⟨fun ⟨written, enough⟩ => ⟨written, enough⟩, fun ⟨written, enough⟩ => ⟨written, enough⟩⟩

theorem ReadFrom.blockRange?_eq_some_iff {above : List (List Char)} (found : ReadFrom above.length block read)
    {range : Range} : blockRange? read = some range ↔ Covers above block range := by
  have starts : read.head?.map some = block.head?.map (commentLine? above.length) := by
    rw [← List.head?_map, found, List.head?_map, Document.head?_number, Option.map_map]
    rfl
  have ends : read.getLast?.map some = block.getLast?.map (commentLine? (above.length + (block.length - 1))) := by
    rw [← List.getLast?_map, found, List.getLast?_map, Document.getLast?_number, Option.map_map]
    rfl
  unfold blockRange? Covers
  constructor
  · intro spans
    split at spans
    · rename_i first last isFirst isLast
      rw [isFirst] at starts
      rw [isLast] at ends
      obtain ⟨firstLine, hasFirst, readFirst⟩ := Option.map_eq_some_iff.mp starts.symm
      obtain ⟨lastLine, hasLast, readLast⟩ := Option.map_eq_some_iff.mp ends.symm
      obtain ⟨_, _, _, rfl⟩ := commentLine?_eq_some_iff.mp readFirst
      obtain ⟨_, _, _, rfl⟩ := commentLine?_eq_some_iff.mp readLast
      cases spans
      exact ⟨firstLine, lastLine, hasFirst, hasLast, rfl⟩
    · cases spans
  · rintro ⟨firstLine, lastLine, hasFirst, hasLast, rfl⟩
    rw [hasFirst] at starts
    rw [hasLast] at ends
    obtain ⟨first, isFirst, readFirst⟩ := Option.map_eq_some_iff.mp starts
    obtain ⟨last, isLast, readLast⟩ := Option.map_eq_some_iff.mp ends
    obtain ⟨_, _, _, rfl⟩ := commentLine?_eq_some_iff.mp readFirst.symm
    obtain ⟨_, _, _, rfl⟩ := commentLine?_eq_some_iff.mp readLast.symm
    rw [isFirst, isLast]

theorem mem_check_iff {document : Document} {finding : Finding} : finding ∈ Rule.check rule document ↔
    ∃ above block below, CommentBlock document above block below ∧ rule.Disabled block ∧
      Covers above block finding.range ∧ finding.arguments = [] := by
  have opened : Rule.check rule document = ((blocks document).filter rule.isCode).filterMap fun block =>
    (blockRange? block).map fun range => ⟨range, []⟩ := rfl
  rw [opened]
  constructor
  · intro known
    obtain ⟨read, mem, reported⟩ := List.mem_filterMap.mp known
    obtain ⟨mem, code⟩ := List.mem_filter.mp mem
    obtain ⟨range, spans, rfl⟩ := Option.map_eq_some_iff.mp reported
    obtain ⟨above, block, below, isBlock, found⟩ := mem_blocks_iff.mp mem
    exact ⟨above, block, below, isBlock, found.isCode_iff.mp code, found.blockRange?_eq_some_iff.mp spans, rfl⟩
  · rintro ⟨above, block, below, isBlock, disabled, spans, none⟩
    obtain ⟨read, found⟩ := exists_readFrom isBlock.comments above.length
    refine List.mem_filterMap.mpr ⟨read, List.mem_filter.mpr ⟨?_, found.isCode_iff.mpr disabled⟩, ?_⟩
    · exact mem_blocks_iff.mpr ⟨above, block, below, isBlock, found⟩
    · rw [found.blockRange?_eq_some_iff.mpr spans, Option.map_some, ← none]

theorem looksLikeCode_comment {document : Document} {line text : List Char} (mem : line ∈ document.lines)
    (commented : commentOf line = some text) : looksLikeCode (Text.trim text) = true ↔
      (Text.trim text).getLast? = some ';' ∨ (statementPattern.search (Text.trim text)).isSome = true ∨
        keywords.contains (firstWord (Text.trim text)) = true := by
  obtain ⟨⟨gap, trailing, _, _, split⟩, _, ends⟩ := Text.trim_eq_iff.mp (rfl : Text.trim text = Text.trim text)
  refine looksLikeCode_iff ends fun feed => ?_
  refine Document.oneLine_of_mem_lines mem (mem_of_mem_commentOf commented ?_)
  rw [split]
  simp [feed]

/-- The findings are the blocks of disabled code, in the order of the document and each of them once. Which texts look
like code, the expression decides, besides a semicolon at the end and the keywords. -/
theorem check_reports_blocks (rule : CommentedCode) (document : Document) :
    (∀ finding, finding ∈ Rule.check rule document ↔ ∃ above block below,
      CommentBlock document above block below ∧ rule.Disabled block ∧ Covers above block finding.range ∧
        finding.arguments = []) ∧
      ((Rule.check rule document).Pairwise fun earlier later => earlier.range.Precedes later.range) ∧
      ∃ pattern, Pattern.ofText? statementText = some pattern ∧
        ∀ line ∈ document.lines, ∀ text, commentOf line = some text → (looksLikeCode (Text.trim text) = true ↔
          (Text.trim text).getLast? = some ';' ∨ (pattern.search (Text.trim text)).isSome = true ∨
            keywords.contains (firstWord (Text.trim text)) = true) := by
  refine ⟨fun finding => mem_check_iff, (check_along rule document).ordered, statementPattern, ?_, ?_⟩
  · exact ofText?_statementPattern
  · intro line mem text commented
    exact looksLikeCode_comment mem commented

/-- A block at the end of a document, with blank comments around its text. -/
example : Rule.check (⟨9 / 10⟩ : CommentedCode) ⟨⟨"m.bsl"⟩, .bsl, "А = 1; //\n  //\n  // Б = 2;\n//".toList⟩ =
    [⟨⟨⟨1, 2⟩, ⟨3, 2⟩⟩, []⟩] := by
  decide +kernel

end CommentedCode

end BslLint
