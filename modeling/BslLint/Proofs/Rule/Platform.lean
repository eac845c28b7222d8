import BslLint.Check.Registry
import BslLint.Proofs.Rule.Instances
import BslLint.Proofs.Session.Analysis
import Mathlib.Data.List.Flatten

/-! Newer platforms. Compatibility modes are in a total order that goes by their numbers; the mode without
restriction is the greatest. A rule that runs on a platform runs on every newer one too, so that a newer mode only
adds rules, and violations, to what there is under an older or an unknown one. -/

set_option autoImplicit false

namespace BslLint

namespace CompatibilityMode

variable {first second third : CompatibilityMode}

theorem le_iff : first ≤ second ↔ first.major < second.major ∨ first.major = second.major ∧
    (first.minor < second.minor ∨ first.minor = second.minor ∧ first.version ≤ second.version) := by
  have lex : first ≤ second ↔ (List.compareLex compare first.numbers second.numbers).isLE = true := by
    rw [← List.compare_eq_compareLex]
    exact Iff.rfl
  rw [lex, numbers, numbers, List.compareLex_cons_cons, List.compareLex_cons_cons, List.compareLex_cons_cons,
    List.compareLex_nil_nil]
  simp only [Ordering.isLE_then_iff_and, Nat.isLE_compare, Nat.compare_eq_lt, Ordering.isLE_eq, or_true, and_true,
    UInt32.lt_iff_toNat_lt, UInt32.le_iff_toNat_le, ← UInt32.toNat_inj]
  omega

theorem le_trans (left : first ≤ second) (right : second ≤ third) : first ≤ third := by
  rw [le_iff] at *
  simp only [UInt32.lt_iff_toNat_lt, UInt32.le_iff_toNat_le, ← UInt32.toNat_inj] at *
  omega

theorem le_total (first second : CompatibilityMode) : first ≤ second ∨ second ≤ first := by
  rw [le_iff, le_iff]
  simp only [UInt32.lt_iff_toNat_lt, UInt32.le_iff_toNat_le, ← UInt32.toNat_inj]
  omega

theorem le_antisymm (left : first ≤ second) (right : second ≤ first) : first = second := by
  obtain ⟨major, minor, version⟩ := first
  obtain ⟨otherMajor, otherMinor, otherVersion⟩ := second
  rw [le_iff] at left right
  simp only [UInt32.lt_iff_toNat_lt, UInt32.le_iff_toNat_le, ← UInt32.toNat_inj] at left right
  rw [mk.injEq, ← UInt32.toNat_inj, ← UInt32.toNat_inj, ← UInt32.toNat_inj]
  omega

theorem le_unrestricted (mode : CompatibilityMode) : mode ≤ unrestricted := by
  rw [le_iff]
  simp only [unrestricted, UInt32.lt_iff_toNat_lt, UInt32.le_iff_toNat_le, ← UInt32.toNat_inj, UInt32.toNat_ofNat]
  have major := mode.major.toNat_lt
  have minor := mode.minor.toNat_lt
  have version := mode.version.toNat_lt
  omega

/-- Modes as they may be known of a workspace, where an unknown one is older than all others. -/
inductive NotNewer : Option CompatibilityMode → Option CompatibilityMode → Prop where
  | unknown (mode : Option CompatibilityMode) : NotNewer none mode
  | known {older newer : CompatibilityMode} : older ≤ newer → NotNewer (some older) (some newer)

theorem notNewer_unrestricted (mode : Option CompatibilityMode) : NotNewer mode (some unrestricted) := by
  cases mode with
  | none => exact .unknown _
  | some mode => exact .known (le_unrestricted mode)

end CompatibilityMode

open CompatibilityMode (NotNewer)

variable {older newer : Option CompatibilityMode} (notNewer : NotNewer older newer) (fileType : FileType)
  (snapshot : Snapshot)

include notNewer

theorem Descriptor.fitsMode_of_notNewer {descriptor : Descriptor}
    (fits : descriptor.fitsMode ⟨fileType, older⟩ = true) : descriptor.fitsMode ⟨fileType, newer⟩ = true := by
  unfold fitsMode at *
  cases stated : descriptor.metadata.compatibilityMode with
  | none => rfl
  | some required =>
    rw [stated] at fits
    cases notNewer with
    | unknown => cases fits
    | known above =>
      simp only [decide_eq_true_eq] at fits ⊢
      exact CompatibilityMode.le_trans fits above

theorem Descriptor.isSelected_of_notNewer {descriptor : Descriptor}
    (selected : descriptor.isSelected ⟨fileType, older⟩ snapshot = true) :
    descriptor.isSelected ⟨fileType, newer⟩ snapshot = true := by
  unfold isSelected applies at *
  rw [Bool.and_eq_true, Bool.and_eq_true] at *
  exact ⟨selected.1, selected.2.1, fitsMode_of_notNewer notNewer fileType selected.2.2⟩

namespace Registry

variable {State : Type} (registry : Registry State)

theorem selected_sublist : (registry.selected ⟨fileType, older⟩ snapshot).Sublist
    (registry.selected ⟨fileType, newer⟩ snapshot) :=
  List.monotone_filter_right _ fun _ selected => Descriptor.isSelected_of_notNewer notNewer fileType snapshot selected

theorem analyze_sublist [Rule State] (only : Option (List String)) (path : Path) (content : String) :
    (registry.analyze snapshot ⟨fileType, older⟩ only path content).Sublist
      (registry.analyze snapshot ⟨fileType, newer⟩ only path content) := by
  have instances : (registry.instances ⟨fileType, older⟩ snapshot).Sublist
      (registry.instances ⟨fileType, newer⟩ snapshot) :=
    (registry.selected_sublist notNewer fileType snapshot).filterMap _
  exact mergeSort_sublist Violation.rangeLe_trans Violation.rangeLe_total ((instances.filter _).flatMap _)

end Registry

omit notNewer

/-- A session reports on a file what its rules report under the mode that it finds. An older mode selects fewer
rules than a newer one and reports less, with the order kept; an unknown mode selects the fewest rules, and the
mode without restriction the most. -/
theorem Session.analyze_newerPlatform {State : Type} [Rule State] (registry : Registry State) (snapshot : Snapshot)
    (path : Path) (fileType : FileType) (content : String) {older newer : CompatibilityMode} (notNewer : older ≤ newer) :
    let selected mode := registry.selected ⟨fileType, mode⟩ snapshot
    let reported mode := registry.analyze snapshot ⟨fileType, mode⟩ none path content
    (selected none).Sublist (selected (some older)) ∧ (selected (some older)).Sublist (selected (some newer)) ∧
    (∀ mode, (selected mode).Sublist (selected (some .unrestricted))) ∧
    (∀ mode, (selected mode).Sublist registry.descriptors) ∧
    (reported none).Sublist (reported (some older)) ∧ (reported (some older)).Sublist (reported (some newer)) ∧
    (∀ (tree : FileTree) (session : Session State), session.registry = registry →
      session.snapshot = snapshot → FileType.ofPath? path = some fileType →
      (session.call (analyze tree path content)).1 = .ok (reported (session.renewed tree).detection.mode)) ∧
    (∀ first second : CompatibilityMode, (first ≤ second ∨ second ≤ first) ∧
      (first ≤ second → second ≤ first → first = second) ∧
      (first ≤ second ↔ first.major < second.major ∨ first.major = second.major ∧
        (first.minor < second.minor ∨ first.minor = second.minor ∧ first.version ≤ second.version))) ∧
    ∀ mode : CompatibilityMode, mode ≠ .unrestricted →
      mode ≤ .unrestricted ∧ ¬ CompatibilityMode.unrestricted ≤ mode := by
  intro selected reported
  refine ⟨?_, ?_, ?_, ?_, ?_, ?_, ?_, ?_, ?_⟩
  · exact registry.selected_sublist (.unknown _) fileType snapshot
  · exact registry.selected_sublist (.known notNewer) fileType snapshot
  · intro mode
    exact registry.selected_sublist (CompatibilityMode.notNewer_unrestricted mode) fileType snapshot
  · intro mode
    exact List.filter_sublist
  · exact registry.analyze_sublist (.unknown _) fileType snapshot none path content
  · exact registry.analyze_sublist (.known notNewer) fileType snapshot none path content
  · rintro tree session rfl rfl supported
    rw [analyze, call_analyzeOnly_supported tree session none path content supported]
    rfl
  · intro first second
    exact ⟨CompatibilityMode.le_total first second, CompatibilityMode.le_antisymm, CompatibilityMode.le_iff⟩
  · intro mode restricted
    have below := CompatibilityMode.le_unrestricted mode
    exact ⟨below, fun above => restricted (CompatibilityMode.le_antisymm below above)⟩

theorem Session.analyze_newerPlatform_stated :
    let newOnly : RegisteredRule BuiltinRule :=
      ⟨⟨{ Builtin.metadata .yoLetter with compatibilityMode := some ⟨8, 3, 10⟩ }, .empty, .empty⟩,
        Builtin.fresh .yoLetter⟩
    let registry : Registry BuiltinRule := ⟨[newOnly, Builtin.registeredRule .magicNumber]⟩
    let selected mode := registry.selected ⟨.bsl, mode⟩ .standard
    let reported mode := registry.analyze .standard ⟨.bsl, mode⟩ none ⟨"m.bsl"⟩ "ё = 42;"
    (⟨8, 2, 16⟩ : CompatibilityMode) ≤ ⟨8, 3, 10⟩ ∧ (selected (some ⟨8, 2, 16⟩)).length = 1 ∧
    (selected (some ⟨8, 3, 10⟩)).length = 2 ∧
    (selected (some ⟨8, 2, 16⟩)).Sublist (selected (some ⟨8, 3, 10⟩)) ∧
    (reported (some ⟨8, 2, 16⟩)).Sublist (reported (some ⟨8, 3, 10⟩)) := by
  intro newOnly registry selected reported
  have older : (⟨8, 2, 16⟩ : CompatibilityMode) ≤ ⟨8, 3, 10⟩ := by decide
  have added := Session.analyze_newerPlatform registry .standard ⟨"m.bsl"⟩ .bsl "ё = 42;" older
  exact ⟨older, by decide, by decide, added.2.1, added.2.2.2.2.2.1⟩

end BslLint
