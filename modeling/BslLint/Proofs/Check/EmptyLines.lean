import BslLint.Proofs.Check.Extent
import BslLint.Proofs.Source.LineEnds

/-! Empty lines at the end of a document. No rule reports anything on them, and none reports anything else on the
lines before. -/

set_option autoImplicit false

namespace BslLint

open Source

namespace Document

theorem number_append (first : Nat) (lines more : List (List Char)) :
    number first (lines ++ more) = number first lines ++ number (first + lines.length) more := by
  induction lines generalizing first with
  | nil => rfl
  | cons line lines ih =>
    rw [List.cons_append, number, number, ih, List.length_cons, List.cons_append, Nat.add_assoc, Nat.add_comm 1]

theorem line_of_mem_number_replicate {first count : Nat} {numbered : Nat × List Char}
    (mem : numbered ∈ number first (List.replicate count [])) : numbered.2 = [] := by
  induction count generalizing first with
  | zero => cases mem
  | succ count ih =>
    rw [List.replicate_succ, number, List.mem_cons] at mem
    rcases mem with rfl | later
    · rfl
    · exact ih later

/-- A document with empty lines after those of another one. -/
def Extends (other document : Document) : Prop :=
  ∃ count, other.lines = document.lines ++ List.replicate count []

theorem Extends.numberedLines {other document : Document} (extend : other.Extends document) :
    ∃ more, other.numberedLines = document.numberedLines ++ more ∧ ∀ numbered ∈ more, numbered.2 = [] := by
  obtain ⟨count, lines⟩ := extend
  exact ⟨_, by rw [Document.numberedLines, lines, number_append, Document.numberedLines],
    fun numbered mem => line_of_mem_number_replicate mem⟩

end Document

variable {document other : Document} (extend : other.Extends document)

include extend in
theorem checkLines_of_extends {check : Nat → List Char → List Finding} (silent : ∀ number, check number [] = []) :
    checkLines other check = checkLines document check := by
  obtain ⟨more, numbered, empty⟩ := extend.numberedLines
  have nothing : (more.flatMap fun numbered => check numbered.1 numbered.2) = [] := by
    rw [List.flatMap_eq_nil_iff]
    intro numbered mem
    rw [empty numbered mem, silent]
  rw [checkLines, checkLines, numbered, List.flatMap_append, nothing, List.append_nil]

theorem Source.words_nil : words [] = [] := by
  rw [words, wordsFrom]

theorem LineLength.checkLine_nil (rule : LineLength) (number : Nat) : rule.checkLine number [] = [] := by
  rw [checkLine]
  exact if_neg (Nat.not_lt_zero _)

theorem ServiceTag.checkLine_nil (rule : ServiceTag) (number : Nat) : rule.checkLine number [] = [] := rfl

theorem YoLetter.checkLine_nil (number : Nat) : checkLine number [] = [] := by
  rw [checkLine, show maskedCode [] = [] from rfl, names, words_nil]
  rfl

theorem ModalWindow.checkLine_nil (number : Nat) : checkLine number [] = [] := by
  rw [checkLine, show maskedCode [] = [] from rfl, names, words_nil]
  rfl

theorem MagicNumber.checkLine_nil (rule : MagicNumber) (number : Nat) : rule.checkLine number [] = [] := by
  rw [checkLine, show maskedCode [] = [] from rfl, signedNumbers, words_nil]
  rfl

namespace CommentedCode

theorem runs_append_none {Item : Type} (items more : List (Option Item)) :
    runs (items ++ none :: more) = runs items ++ runs more := by
  induction items with
  | nil => rfl
  | cons item rest ih =>
    cases item with
    | none => exact ih
    | some item =>
      rw [List.cons_append, runs.eq_def, runs.eq_def (some item :: rest)]
      simp only [ih]
      cases rest with
      | nil => rfl
      | cons next others =>
        cases next with
        | none => rfl
        | some next =>
          -- Another item begins a run, which the first one joins on either side.
          rcases runs_some next others with alone | ⟨run, following, _, joined⟩
          · rw [alone]
            rfl
          · rw [joined]
            rfl

theorem runs_nones {Item : Type} {nones : List (Option Item)} (all : ∀ item ∈ nones, item = none) :
    runs nones = [] := by
  induction nones with
  | nil => rfl
  | cons item rest ih =>
    rw [all item List.mem_cons_self]
    exact ih fun other mem => all other (List.mem_cons_of_mem _ mem)

theorem runs_append_nones {Item : Type} (items : List (Option Item)) {nones : List (Option Item)}
    (all : ∀ item ∈ nones, item = none) : runs (items ++ nones) = runs items := by
  cases nones with
  | nil => rw [List.append_nil]
  | cons item rest =>
    have gaps : ∀ other ∈ rest, other = none := fun other mem => all other (List.mem_cons_of_mem _ mem)
    rw [all item List.mem_cons_self, runs_append_none, runs_nones gaps, List.append_nil]

include extend in
theorem blocks_of_extends : blocks other = blocks document := by
  obtain ⟨more, numbered, empty⟩ := extend.numberedLines
  rw [blocks, blocks, numbered, List.map_append]
  refine runs_append_nones _ fun item mem => ?_
  obtain ⟨⟨number, line⟩, inside, rfl⟩ := List.mem_map.mp mem
  rw [show line = [] from empty _ inside]
  rfl

end CommentedCode

namespace DirectivePosition

def isStatement (line : List Char) : Bool :=
  kindOf line == .statement

-- Of what precedes some lines, only a statement matters to them.
theorem checkFrom_append (seen : Bool) (lines more : List (Nat × List Char)) :
    checkFrom seen (lines ++ more) =
      checkFrom seen lines ++ checkFrom (seen || lines.any fun numbered => isStatement numbered.2) more := by
  induction lines generalizing seen with
  | nil => rw [List.any_nil, Bool.or_false]; rfl
  | cons numbered rest ih =>
    obtain ⟨number, line⟩ := numbered
    rw [List.cons_append, checkFrom, checkFrom, List.any_cons, isStatement]
    cases kindOf line with
    | blank => exact ih seen
    | statement => simpa using ih true
    | directive span =>
      simp only [ih]
      cases seen <;> rfl

theorem checkFrom_empty (seen : Bool) {lines : List (Nat × List Char)} (empty : ∀ numbered ∈ lines, numbered.2 = []) :
    checkFrom seen lines = [] := by
  have blank : kindOf [] = .blank := by decide
  induction lines with
  | nil => rfl
  | cons numbered rest ih =>
    obtain ⟨number, line⟩ := numbered
    obtain rfl : line = [] := empty _ List.mem_cons_self
    simp only [checkFrom, blank]
    exact ih fun other mem => empty other (List.mem_cons_of_mem _ mem)

end DirectivePosition

include extend in
/-- Every rule reports the same with empty lines at the end of a document. -/
theorem BuiltinRule.check_of_extends (rule : BuiltinRule) : Rule.check rule other = Rule.check rule document := by
  cases rule with
  | lineLength rule => exact checkLines_of_extends extend rule.checkLine_nil
  | serviceTag rule => exact checkLines_of_extends extend rule.checkLine_nil
  | yoLetter => exact checkLines_of_extends extend YoLetter.checkLine_nil
  | modalWindow => exact checkLines_of_extends extend ModalWindow.checkLine_nil
  | magicNumber rule => exact checkLines_of_extends extend rule.checkLine_nil
  | commentedCode rule =>
    have blocks := CommentedCode.blocks_of_extends extend
    simp only [Rule.check, blocks]
  | directivePosition =>
    obtain ⟨more, numbered, empty⟩ := extend.numberedLines
    change DirectivePosition.checkFrom false other.numberedLines = _
    rw [numbered]
    rw [DirectivePosition.checkFrom_append, DirectivePosition.checkFrom_empty _ empty, List.append_nil]
    rfl

end BslLint
