import BslLint.Proofs.Sorting
import BslLint.Report
import Mathlib.Algebra.Ring.Nat
import Mathlib.Data.List.Forall2
import Mathlib.Data.List.Nodup

/-! What a report says about the files that were recorded in it one after another. Only their order and the order of
violations that are tied in a file make a difference, and every way of counting agrees with what was recorded. -/

set_option autoImplicit false

namespace BslLint

namespace Report

theorem violationLe_trans (first second third : Violation) (left : violationLe first second = true)
    (right : violationLe second third = true) : violationLe first third = true := by
  have trans (first second third : Source.Range) (left : first.le second = true) (right : second.le third = true) :
      first.le third = true := Source.Range.le_trans left right
  refine lexicographic_trans trans (fun _ _ => Source.Range.le_antisymm) left right fun near far => ?_
  rw [decide_eq_true_eq] at *
  exact String.le_trans near far

theorem violationLe_total (left right : Violation) : (violationLe left right || violationLe right left) = true := by
  refine lexicographic_total (fun left right => ?_) ?_
  · rw [Bool.or_eq_true]
    exact Source.Range.le_total left right
  · rw [Bool.or_eq_true, decide_eq_true_eq, decide_eq_true_eq]
    exact String.le_total left.code right.code

/-- Violations in the order of their ranges and then of their codes. Where both are the same they keep their order. -/
structure Arranged (given arranged : List Violation) : Prop where
  perm : arranged.Perm given
  ordered : arranged.Pairwise fun left right => left.range.le right.range = true ∧
    (left.range = right.range → left.code ≤ right.code)
  ties : ∀ range code, arranged.filter (fun violation => violation.range = range ∧ violation.code = code) =
    given.filter fun violation => violation.range = range ∧ violation.code = code

theorem arranged_mergeSort (violations : List Violation) : Arranged violations (violations.mergeSort violationLe) where
  perm := List.mergeSort_perm _ _
  ordered := by
    refine (List.pairwise_mergeSort violationLe_trans violationLe_total violations).imp fun {left right} le => ?_
    unfold violationLe at le
    split at le
    · rename_i same
      exact ⟨same ▸ Source.Range.le_refl right.range, fun _ => decide_eq_true_eq.mp le⟩
    · rename_i differ
      exact ⟨le, fun same => absurd same differ⟩
  ties range code := by
    rw [filter_mergeSort violationLe_trans violationLe_total]
    refine List.mergeSort_of_pairwise (List.pairwise_of_forall_mem_list ?_)
    intro left memLeft right memRight
    obtain ⟨rangeLeft, codeLeft⟩ := of_decide_eq_true (List.mem_filter.mp memLeft).2
    obtain ⟨rangeRight, codeRight⟩ := of_decide_eq_true (List.mem_filter.mp memRight).2
    rw [violationLe, if_pos (rangeLeft.trans rangeRight.symm), codeLeft, codeRight]
    exact decide_eq_true (String.le_refl code)

def pushAll (report : Report) (answers : List (Path × List Violation)) : Report :=
  answers.foldl (fun report answer => report.push answer.1 answer.2) report

theorem pushAll_eq (report : Report) (answers : List (Path × List Violation)) :
    report.pushAll answers = {
      files := report.files ++ (answers.filter fun answer => answer.2 ≠ []).map fun answer =>
        ⟨answer.1, answer.2.mergeSort violationLe⟩
      filesChecked := report.filesChecked + answers.length } := by
  induction answers generalizing report with
  | nil => simp [pushAll]
  | cons answer rest ih =>
    obtain ⟨path, violations⟩ := answer
    rw [pushAll, List.foldl_cons, ← pushAll, ih, push, List.length_cons, Nat.add_assoc, Nat.add_comm 1]
    cases violations with
    | nil => rfl
    | cons first others =>
      rw [List.filter_cons_of_pos (by simp), List.map_cons]
      simp only [List.isEmpty_cons, Bool.false_eq_true, if_false, List.append_assoc, List.singleton_append]

theorem forall₂_files_pushAll (pushes : List (Path × List Violation)) :
    List.Forall₂ (fun push file => file.path = push.1 ∧ Arranged push.2 file.violations)
      (pushes.filter fun push => push.2 ≠ []) (empty.pushAll pushes).files := by
  rw [pushAll_eq]
  exact List.forall₂_map_right_iff.mpr (List.forall₂_same.mpr fun push _ => ⟨rfl, arranged_mergeSort push.2⟩)

theorem filesChecked_pushAll (report : Report) (pushes : List (Path × List Violation)) :
    (report.pushAll pushes).filesChecked = report.filesChecked + pushes.length := by
  rw [pushAll_eq]

theorem same_of_violationLe {left right : Violation} (forth : violationLe left right = true)
    (back : violationLe right left = true) : (left.range, left.code) = (right.range, right.code) := by
  unfold violationLe at forth back
  split at forth
  · rename_i same
    rw [if_pos same.symm] at back
    rw [same, String.le_antisymm (of_decide_eq_true forth) (of_decide_eq_true back)]
  · rename_i differ
    rw [if_neg (Ne.symm differ)] at back
    exact absurd (Source.Range.le_antisymm forth back) differ

/-- Violations of which no two have the same range and the same code are in the same order, however they were given. -/
theorem mergeSort_eq_of_perm {violations permuted : List Violation} (perm : permuted.Perm violations)
    (distinct : (violations.map fun violation => (violation.range, violation.code)).Nodup) :
    permuted.mergeSort violationLe = violations.mergeSort violationLe := by
  have given := perm.trans (List.mergeSort_perm violations violationLe).symm
  have sorted := (List.mergeSort_perm permuted violationLe).trans given
  -- Two sorted permutations are the same where the order has no ties.
  refine sorted.eq_of_pairwise ?_ (List.pairwise_mergeSort violationLe_trans violationLe_total _)
    (List.pairwise_mergeSort violationLe_trans violationLe_total _)
  intro left right memLeft memRight forth back
  have inBoth := perm.mem_iff.mp (List.mem_mergeSort.mp memLeft)
  exact List.inj_on_of_nodup_map distinct inBoth (List.mem_mergeSort.mp memRight) (same_of_violationLe forth back)

theorem push_of_perm (report : Report) (path : Path) {violations permuted : List Violation}
    (perm : permuted.Perm violations)
    (distinct : (violations.map fun violation => (violation.range, violation.code)).Nodup) :
    report.push path permuted = report.push path violations := by
  rw [push, push, perm.isEmpty_eq, mergeSort_eq_of_perm perm distinct]

theorem entries_push (report : Report) (path : Path) (violations : List Violation) :
    (report.push path violations).entries =
      report.entries ++ (violations.mergeSort violationLe).map fun violation => (path, violation) := by
  cases violations with
  | nil => simp [push, entries]
  | cons violation rest => simp [push, entries]

theorem entries_pushAll_perm (report : Report) (pushes : List (Path × List Violation)) :
    (report.pushAll pushes).entries.Perm
      (report.entries ++ pushes.flatMap fun push => push.2.map fun violation => (push.1, violation)) := by
  induction pushes generalizing report with
  | nil => simp [pushAll]
  | cons push rest ih =>
    -- The induction is on what is recorded, over any report, since each file goes to the end of what is there.
    have sorted := (List.mergeSort_perm push.2 violationLe).map fun violation => (push.1, violation)
    refine (ih (report.push push.1 push.2)).trans ?_
    rw [entries_push, List.append_assoc, List.flatMap_cons]
    exact (sorted.append_right _).append_left _

theorem mem_entries_pushAll_iff (answers : List (Path × List Violation)) (path : Path) (violation : Violation) :
    (path, violation) ∈ (empty.pushAll answers).entries ↔
      ∃ violations, (path, violations) ∈ answers ∧ violation ∈ violations := by
  rw [(entries_pushAll_perm empty answers).mem_iff]
  simp only [entries, empty, List.flatMap_nil, List.nil_append, List.mem_flatMap, List.mem_map, Prod.mk.injEq]
  constructor
  · rintro ⟨⟨_, violations⟩, mem, _, inside, rfl, rfl⟩
    exact ⟨violations, mem, inside⟩
  · rintro ⟨violations, mem, inside⟩
    exact ⟨(path, violations), mem, violation, inside, rfl, rfl⟩

/-- What is counted in a report is counted in each of the lists that were recorded. -/
theorem countP_entries_pushAll (pushes : List (Path × List Violation)) (counted : Violation → Bool) :
    (empty.pushAll pushes).entries.countP (fun entry => counted entry.2) =
      (pushes.map fun push => push.2.countP counted).sum := by
  rw [(entries_pushAll_perm empty pushes).countP_eq, List.countP_append, List.countP_flatMap]
  simp only [entries, empty, List.flatMap_nil, List.countP_nil, Nat.zero_add]
  congr 1
  refine List.map_congr_left fun push _ => ?_
  rw [Function.comp_apply, List.countP_map]
  rfl

theorem sum_countP_severity (entries : List (Path × Violation)) :
    (Severity.descending.map fun severity => entries.countP fun entry => entry.2.severity == severity).sum =
      entries.length := by
  induction entries with
  | nil => rfl
  | cons entry rest ih =>
    simp only [Severity.descending, List.map_cons, List.map_nil, List.sum_cons, List.sum_nil, List.countP_cons,
      List.length_cons] at ih ⊢
    cases entry.2.severity <;> simp <;> omega

/-- A report is blocking once a violation in it is an error or at least critical. -/
theorem hasBlocking_pushAll_iff (pushes : List (Path × List Violation)) :
    (empty.pushAll pushes).hasBlocking = true ↔ ∃ push ∈ pushes, ∃ violation ∈ push.2,
      violation.kind = .error ∨ Severity.critical ≤ violation.severity := by
  have blocking (violation : Violation) : violation.isBlocking = true ↔
      violation.kind = .error ∨ Severity.critical ≤ violation.severity := by
    rw [Violation.isBlocking, Bool.or_eq_true, beq_iff_eq, decide_eq_true_eq]
  rw [hasBlocking, List.any_eq_true]
  constructor
  · rintro ⟨⟨path, violation⟩, mem, blocks⟩
    obtain ⟨violations, pushed, inside⟩ := (mem_entries_pushAll_iff pushes path violation).mp mem
    exact ⟨(path, violations), pushed, violation, inside, (blocking violation).mp blocks⟩
  · rintro ⟨⟨path, violations⟩, pushed, violation, inside, blocks⟩
    exact ⟨(path, violation), (mem_entries_pushAll_iff pushes path violation).mpr ⟨violations, pushed, inside⟩,
      (blocking violation).mpr blocks⟩

/-- What a report says about the files that were recorded. -/
structure Records (pushes : List (Path × List Violation)) (report : Report) : Prop where
  filesChecked : report.filesChecked = pushes.length
  files : List.Forall₂ (fun push file => file.path = push.1 ∧ Arranged push.2 file.violations)
    (pushes.filter fun push => push.2 ≠ []) report.files
  count : report.count = (pushes.map fun push => push.2.length).sum
  countBySeverity : report.countBySeverity = [Severity.blocker, .critical, .major, .minor, .info].map fun severity =>
    (severity, (pushes.map fun push => push.2.countP fun violation => violation.severity == severity).sum)
  total : (report.countBySeverity.map Prod.snd).sum = report.count
  hasBlocking : report.hasBlocking = true ↔ ∃ push ∈ pushes, ∃ violation ∈ push.2,
    violation.kind = .error ∨ Severity.critical ≤ violation.severity

/-- A report that files are recorded in one after another has the files with violations in this order, each with its
violations arranged, and its counts are those of what was recorded. How the violations of a file are given makes no
difference if no two of them have the same range and code. -/
theorem pushAll_records (pushes : List (Path × List Violation)) :
    Records pushes (empty.pushAll pushes) ∧
    ∀ (report : Report) (path : Path) (violations permuted : List Violation), permuted.Perm violations →
      (violations.map fun violation => (violation.range, violation.code)).Nodup →
        report.push path permuted = report.push path violations := by
  refine ⟨?_, fun report path violations permuted => report.push_of_perm path⟩
  exact {
    filesChecked := (filesChecked_pushAll empty pushes).trans (Nat.zero_add _)
    files := forall₂_files_pushAll pushes
    count := by simpa [count] using countP_entries_pushAll pushes fun _ => true
    countBySeverity := List.map_congr_left fun severity _ =>
      congrArg (severity, ·) (countP_entries_pushAll pushes (·.severity == severity))
    total := by
      rw [countBySeverity, List.map_map]
      exact sum_countP_severity _
    hasBlocking := hasBlocking_pushAll_iff pushes }

end Report

end BslLint
