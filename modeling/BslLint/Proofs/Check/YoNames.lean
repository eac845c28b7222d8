import BslLint.Check.YoLetter
import BslLint.Proofs.Check.Extent
import BslLint.Proofs.Pattern.Names

/-! Names with the letter Ё are reported, each of them once. -/

set_option autoImplicit false

namespace BslLint.YoLetter

open Pattern (FindsAll)
open Source

def HoldsYo (name : Span) : Prop :=
  'ё' ∈ name.chars ∨ 'Ё' ∈ name.chars

instance (name : Span) : Decidable (HoldsYo name) :=
  inferInstanceAs (Decidable (_ ∨ _))

theorem hasYo_eq (name : Span) : hasYo name = decide (HoldsYo name) := by
  rw [Bool.eq_iff_iff, decide_eq_true_eq, hasYo, List.any_eq_true, HoldsYo]
  simp only [Bool.or_eq_true, beq_iff_eq, and_or_left, exists_or, exists_eq_right]

/-- Findings that report the names of a document with the letter, in its order. -/
structure ReportsNames (document : Document) (findings : List Finding) : Prop where
  names : ∀ finding, finding ∈ findings ↔ ∃ number line run name, document.lines[number]? = some line ∧
    WordRun (maskedCode line) run ∧ NameOf run name ∧ HoldsYo name ∧ finding = name.finding number [name.text]
  ordered : findings.Pairwise fun earlier later => earlier.range.Precedes later.range
  /-- On each line they are what a scan with the pattern for names finds, as far as it holds the letter. -/
  scanned : ∃ pattern, Pattern.ofText? "[\\p{L}_]\\w*".toList = some pattern ∧
    ∀ {number : Nat} {line : List Char}, document.lines[number]? = some line →
      ∃ spans, FindsAll pattern (.first (maskedCode line)) spans ∧
        findings.filter (fun finding => finding.range.start.line = number) =
          (spans.filter fun name => HoldsYo name).map fun name => name.finding number [name.text]

theorem check_reports_names (rule : YoLetter) (document : Document) :
    ReportsNames document (Rule.check rule document) where
  names finding := by
    have opened : Rule.check rule document = checkLines document checkLine := rfl
    simp only [opened, mem_checkLines, checkLine, List.mem_map, List.mem_filter, mem_names_iff, hasYo_eq,
      decide_eq_true_eq]
    constructor
    · rintro ⟨number, line, there, name, ⟨⟨run, isRun, isName⟩, holds⟩, rfl⟩
      exact ⟨number, line, run, name, there, isRun, isName, holds, rfl⟩
    · rintro ⟨number, line, run, name, there, isRun, isName, holds, rfl⟩
      exact ⟨number, line, there, name, ⟨⟨run, isRun, isName⟩, holds⟩, rfl⟩
  ordered := (checkLines_along document checkLine_along).ordered
  scanned := by
    refine ⟨namePattern, ofText?_namePattern, fun {number line} there => ?_⟩
    refine ⟨names (maskedCode line), findsAll_names_iff.mpr rfl, ?_⟩
    have onLine : (Rule.check rule document).filter (fun finding => finding.range.start.line = number) =
        checkLine number line := filter_checkLines checkLine_along there
    rw [onLine, checkLine]
    simp only [← hasYo_eq]

end BslLint.YoLetter
