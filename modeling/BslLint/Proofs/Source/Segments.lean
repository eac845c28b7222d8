import BslLint.Source.Document
import Mathlib.Data.List.Forall2
import Mathlib.Data.List.Induction
import Mathlib.Logic.Function.Iterate

/-! Documents with other lines. What ends the lines stays: line feeds, and carriage returns before them. A new
line that ends with carriage returns of its own may lose them, since they then end it too. -/

set_option autoImplicit false

namespace BslLint.Document

/-- A piece of a text with the line feed that ended it. -/
def written (segment : List Char × Bool) : List Char :=
  segment.1 ++ if segment.2 then ['\n'] else []

inductive Segmented : List (List Char × Bool) → Prop where
  | nil : Segmented []
  | last {piece : List Char} : piece ≠ [] → '\n' ∉ piece → Segmented [(piece, false)]
  | cons {piece : List Char} {rest : List (List Char × Bool)} : '\n' ∉ piece → Segmented rest →
      Segmented ((piece, true) :: rest)

theorem segments_segmented (content : List Char) : Segmented (segments content) := by
  induction content with
  | nil => exact .nil
  | cons char rest ih =>
    unfold segments
    split
    · exact .cons (by simp) ih
    · rename_i other
      split
      · rename_i piece ended pieces found
        rw [found] at ih
        cases ih with
        | last some plain => exact .last (by simp) (by simp [plain, Ne.symm other])
        | cons plain rest => exact .cons (by simp [plain, Ne.symm other]) rest
      · exact .last (by simp) (by simp [Ne.symm other])

theorem flatMap_written_segments (content : List Char) : (segments content).flatMap written = content := by
  induction content with
  | nil => rfl
  | cons char rest ih =>
    unfold segments
    split
    · rename_i newline
      rw [List.flatMap_cons, ih, newline]
      rfl
    · split
      · rename_i piece ended pieces found
        rw [found] at ih
        rw [← ih]
        rfl
      · rename_i found
        rw [found] at ih
        rw [← ih]
        rfl

theorem segments_line {piece : List Char} (plain : '\n' ∉ piece) (after : List Char) :
    segments (piece ++ '\n' :: after) = (piece, true) :: segments after := by
  induction piece with
  | nil => rw [List.nil_append, segments, if_pos rfl]
  | cons char piece ih =>
    obtain ⟨other, plain⟩ := not_or.mp (List.mem_cons.not.mp plain)
    rw [List.cons_append, segments, if_neg (Ne.symm other), ih plain]

theorem segments_last {piece : List Char} (some : piece ≠ []) (plain : '\n' ∉ piece) :
    segments piece = [(piece, false)] := by
  induction piece with
  | nil => exact absurd rfl some
  | cons char piece ih =>
    obtain ⟨other, plain⟩ := not_or.mp (List.mem_cons.not.mp plain)
    rw [segments, if_neg (Ne.symm other)]
    cases piece with
    | nil => rfl
    | cons next piece => rw [ih (List.cons_ne_nil _ _) plain]

-- The pieces of a text are what they were put together from.
theorem segments_flatMap_written {pieces : List (List Char × Bool)} (segmented : Segmented pieces) :
    segments (pieces.flatMap written) = pieces := by
  induction segmented with
  | nil => rfl
  | last some plain => simpa [written] using segments_last some plain
  | cons plain _ ih =>
    rw [List.flatMap_cons, written, if_pos rfl, List.append_assoc, List.singleton_append, segments_line plain, ih]

def Returns (text : List Char) : Prop :=
  ∀ char ∈ text, char = '\r'

theorem dropReturn_concat (line : List Char) : dropReturn (line ++ ['\r']) = line := by
  simp [dropReturn]

theorem dropReturn_cases (line : List Char) : dropReturn line = line ∨ line = dropReturn line ++ ['\r'] := by
  unfold dropReturn
  split
  · rename_i last
    exact .inr (List.dropLast_append_getLast? _ last).symm
  · exact .inl rfl

theorem lineOf_eq_iterate (segment : List Char × Bool) :
    lineOf segment = dropReturn^[if segment.2 then 2 else 1] segment.1 := by
  obtain ⟨piece, ended⟩ := segment
  cases ended <;> rfl

theorem iterate_dropReturn_append (count : Nat) (line : List Char) :
    ∃ returns, line = dropReturn^[count] line ++ returns ∧ Returns returns ∧ returns.length ≤ count := by
  induction count generalizing line with
  | zero => exact ⟨[], by simp, by simp [Returns], Nat.le_refl _⟩
  | succ count ih =>
    obtain ⟨returns, split, all, few⟩ := ih (dropReturn line)
    rw [Function.iterate_succ_apply]
    rcases dropReturn_cases line with same | dropped
    · exact ⟨returns, by rw [← split, same], all, Nat.le_succ_of_le few⟩
    · refine ⟨returns ++ ['\r'], ?_, ?_, ?_⟩
      · rw [← List.append_assoc, ← split]
        exact dropped
      · intro char mem
        rcases List.mem_append.mp mem with inside | last
        · exact all char inside
        · exact List.mem_singleton.mp last
      · rw [List.length_append, List.length_singleton]
        exact Nat.succ_le_succ few

-- Carriage returns after a line are dropped first.
theorem iterate_dropReturn_of_append {count : Nat} {returns : List Char} (all : Returns returns)
    (few : returns.length ≤ count) (line : List Char) :
    ∃ more, line = dropReturn^[count] (line ++ returns) ++ more ∧ Returns more := by
  -- The last carriage return goes first, hence the induction from the end.
  induction returns using List.reverseRecOn generalizing count with
  | nil =>
    obtain ⟨more, split, all, _⟩ := iterate_dropReturn_append count line
    exact ⟨more, by rwa [List.append_nil], all⟩
  | append_singleton returns last ih =>
    rw [List.length_append, List.length_singleton] at few
    obtain ⟨count, rfl⟩ := Nat.exists_eq_add_of_lt (Nat.lt_of_succ_le few)
    have same : last = '\r' := all last (by simp)
    rw [Function.iterate_succ_apply, ← List.append_assoc, same, dropReturn_concat]
    exact ih (fun char mem => all char (by simp [mem])) (by omega)

def reline (segment : List Char × Bool) (line : List Char) : List Char × Bool :=
  (line ++ segment.1.drop (lineOf segment).length, segment.2)

def withLines (document : Document) (lines : List (List Char)) : Document :=
  { document with content := (List.zipWith reline (segments document.content) lines).flatMap written }

theorem drop_lineOf (segment : List Char × Bool) :
    ∃ returns, segment.1 = lineOf segment ++ returns ∧ segment.1.drop (lineOf segment).length = returns ∧
      Returns returns ∧ returns.length ≤ if segment.2 then 2 else 1 := by
  obtain ⟨returns, split, all, few⟩ := iterate_dropReturn_append (if segment.2 then 2 else 1) segment.1
  rw [← lineOf_eq_iterate] at split
  refine ⟨returns, split, ?_, all, few⟩
  conv_lhs => rw [split]
  exact List.drop_left

theorem reline_lineOf (segment : List Char × Bool) : reline segment (lineOf segment) = segment := by
  obtain ⟨returns, split, rest, _⟩ := drop_lineOf segment
  rw [reline, rest, ← split]

theorem withLines_lines (document : Document) : document.withLines document.lines = document := by
  have same : List.zipWith reline (segments document.content) document.lines = segments document.content := by
    rw [lines, linesOf]
    induction segments document.content with
    | nil => rfl
    | cons segment rest ih => rw [List.map_cons, List.zipWith_cons_cons, reline_lineOf, ih]
  rw [withLines, same, flatMap_written_segments]

theorem lineOf_reline (segment : List Char × Bool) (line : List Char) :
    ∃ returns, line = lineOf (reline segment line) ++ returns ∧ Returns returns := by
  obtain ⟨returns, _, rest, all, few⟩ := drop_lineOf segment
  rw [lineOf_eq_iterate, reline, rest]
  exact iterate_dropReturn_of_append all few line

/-- Another line that may stand in the place of a line. -/
structure Fits (line other : List Char) : Prop where
  newline : '\n' ∈ other → '\n' ∈ line
  empty : other = [] → line = []

theorem plain_reline {segment : List Char × Bool} {line : List Char} (fits : Fits (lineOf segment) line)
    (plain : '\n' ∉ segment.1) : '\n' ∉ (reline segment line).1 := by
  obtain ⟨returns, split, rest, _⟩ := drop_lineOf segment
  rw [split, List.mem_append, not_or] at plain
  rw [reline, rest, List.mem_append, not_or]
  exact ⟨fun newline => plain.1 (fits.newline newline), plain.2⟩

theorem segmented_reline {pieces : List (List Char × Bool)} (segmented : Segmented pieces)
    {lines : List (List Char)} (fits : List.Forall₂ Fits (pieces.map lineOf) lines) :
    Segmented (List.zipWith reline pieces lines) := by
  induction segmented generalizing lines with
  | nil => cases fits; exact .nil
  | @last piece some plain =>
    obtain ⟨line, _, fit, none, rfl⟩ := List.forall₂_cons_left_iff.mp fits
    cases none
    refine .last ?_ (plain_reline fit plain)
    intro empty
    obtain ⟨noLine, noReturns⟩ := List.append_eq_nil_iff.mp empty
    rw [fit.empty noLine, List.length_nil, List.drop_zero] at noReturns
    exact some noReturns
  | cons plain _ ih =>
    obtain ⟨line, others, fit, fitsRest, rfl⟩ := List.forall₂_cons_left_iff.mp fits
    exact .cons (plain_reline fit plain) (ih fitsRest)

/-- The lines that were put in are there, up to carriage returns at their ends. -/
theorem lines_withLines {document : Document} {lines : List (List Char)}
    (fits : List.Forall₂ Fits document.lines lines) :
    List.Forall₂ (fun line shown => ∃ returns, line = shown ++ returns ∧ Returns returns) lines
      (document.withLines lines).lines := by
  have pieces := segments_flatMap_written (segmented_reline (segments_segmented document.content) fits)
  rw [Document.lines, linesOf] at fits
  rw [withLines, Document.lines, linesOf, pieces]
  clear pieces
  generalize segments document.content = segments at fits
  induction segments generalizing lines with
  | nil => cases fits; exact .nil
  | cons segment rest ih =>
    obtain ⟨line, others, _, fitsRest, rfl⟩ := List.forall₂_cons_left_iff.mp fits
    exact .cons (lineOf_reline segment line) (ih fitsRest)

theorem oneLine_of_mem_segments {content : List Char} {segment : List Char × Bool}
    (mem : segment ∈ segments content) : '\n' ∉ segment.1 := by
  have segmented := segments_segmented content
  generalize segments content = pieces at mem segmented
  induction segmented with
  | nil => cases mem
  | last _ plain =>
    cases List.mem_singleton.mp mem
    exact plain
  | cons plain _ ih =>
    rcases List.mem_cons.mp mem with rfl | later
    · exact plain
    · exact ih later

theorem oneLine_of_mem_lines {document : Document} {line : List Char} (mem : line ∈ document.lines) :
    '\n' ∉ line := by
  obtain ⟨segment, known, rfl⟩ := List.mem_map.mp mem
  rw [lineOf_eq_iterate]
  obtain ⟨returns, split, _⟩ := iterate_dropReturn_append (if segment.2 then 2 else 1) segment.1
  intro feed
  apply oneLine_of_mem_segments known
  rw [split]
  exact List.mem_append_left _ feed

end BslLint.Document
