import BslLint.Text.Case
import BslLint.Text.Word
import Mathlib.Data.List.Chain

/-! Folding changes what has case only, once, and to what folds alike. -/

set_option autoImplicit false

namespace BslLint.Text

/-- Whether one of the runs that bounds describe holds everything between two code points. -/
def spans (limits : List Nat) (low high : Nat) : Bool :=
  match limits with
  | first :: stop :: rest =>
    match Nat.blt high stop with
    | true => Nat.ble first low
    | false => spans rest low high
  | _ => false

theorem within_of_spans {limits : List Nat} {low high point : Nat} (ascends : limits.Pairwise (· ≤ ·))
    (all : spans limits low high = true) (above : low ≤ point) (below : point ≤ high) :
    within limits point = true := by
  -- A run that comes later begins later, so that the bounds before it are passed.
  have starts {limits : List Nat} {bound : Nat} (later : ∀ limit ∈ limits, bound ≤ limit)
      (all : spans limits low high = true) : bound ≤ low := by
    fun_induction spans limits low high with
    | case1 first stop rest => exact Nat.le_trans (later first List.mem_cons_self) (Nat.le_of_ble_eq_true all)
    | case2 first stop rest _ ih => exact ih (fun limit mem => later limit (by simp [mem])) all
    | case3 => cases all
  fun_induction spans limits low high with
  | case1 first stop rest inside =>
    have begins : first ≤ low := Nat.le_of_ble_eq_true all
    have ends : high < stop := Nat.blt_eq.mp inside
    simp only [within_cons, Bool.and_eq_true, decide_eq_true_eq, Bool.or_eq_true]
    exact ⟨Nat.le_trans begins above, .inl (Nat.lt_of_le_of_lt below ends)⟩
  | case2 first stop rest _ ih =>
    obtain ⟨order, ascends⟩ := List.pairwise_cons.mp ascends
    have begins : first ≤ low := starts (fun limit mem => order limit (List.mem_cons_of_mem _ mem)) all
    simp only [within_cons, Bool.and_eq_true, decide_eq_true_eq, Bool.or_eq_true]
    exact ⟨Nat.le_trans begins above, .inr (ih (List.pairwise_cons.mp ascends).2 all)⟩
  | case3 => cases all

/-- Bounds of the runs of letters and alphabetic signs that have what differs in case only. -/
def casedBounds : List Nat :=
  [0x41, 0x5B, 0x61, 0x7B, 0xB5, 0xB6, 0xC0, 0xD7, 0xD8, 0xF7, 0xF8, 0x2C2, 0x345, 0x346, 0x370,
   0x375, 0x376, 0x378, 0x37A, 0x37E, 0x37F, 0x380, 0x386, 0x387, 0x388, 0x38B, 0x38C, 0x38D, 0x38E,
   0x3A2, 0x3A3, 0x3F6, 0x3F7, 0x482, 0x48A, 0x530, 0x531, 0x557, 0x560, 0x589, 0x10A0, 0x10C6,
   0x10C7, 0x10C8, 0x10CD, 0x10CE, 0x10D0, 0x10FB, 0x10FC, 0x1249, 0x13A0, 0x13F6, 0x13F8, 0x13FE,
   0x1C80, 0x1C8B, 0x1C90, 0x1CBB, 0x1CBD, 0x1CC0, 0x1D00, 0x1DC0, 0x1E00, 0x1F16, 0x1F18, 0x1F1E,
   0x1F20, 0x1F46, 0x1F48, 0x1F4E, 0x1F50, 0x1F58, 0x1F59, 0x1F5A, 0x1F5B, 0x1F5C, 0x1F5D, 0x1F5E,
   0x1F5F, 0x1F7E, 0x1F80, 0x1FB5, 0x1FB6, 0x1FBD, 0x1FBE, 0x1FBF, 0x1FC2, 0x1FC5, 0x1FC6, 0x1FCD,
   0x1FD0, 0x1FD4, 0x1FD6, 0x1FDC, 0x1FE0, 0x1FED, 0x1FF2, 0x1FF5, 0x1FF6, 0x1FFD, 0x2126, 0x2127,
   0x212A, 0x212E, 0x212F, 0x213A, 0x214E, 0x214F, 0x2160, 0x2183, 0x2183, 0x2185, 0x24B6, 0x24EA,
   0x2C00, 0x2CE5, 0x2CEB, 0x2CEF, 0x2CF2, 0x2CF4, 0x2D00, 0x2D26, 0x2D27, 0x2D28, 0x2D2D, 0x2D2E,
   0xA640, 0xA66F, 0xA67F, 0xA69E, 0xA722, 0xA789, 0xA78B, 0xA7CE, 0xA7D0, 0xA7D2, 0xA7D5, 0xA7DD,
   0xA7F2, 0xA802, 0xAB30, 0xAB5B, 0xAB70, 0xABE3, 0xFB00, 0xFB07, 0xFF21, 0xFF3B, 0xFF41, 0xFF5B,
   0x10400, 0x1049E, 0x104B0, 0x104D4, 0x104D8, 0x104FC, 0x10570, 0x1057B, 0x1057C, 0x1058B,
   0x1058C, 0x10593, 0x10594, 0x10596, 0x10597, 0x105A2, 0x105A3, 0x105B2, 0x105B3, 0x105BA,
   0x105BB, 0x105BD, 0x10C80, 0x10CB3, 0x10CC0, 0x10CF3, 0x10D4A, 0x10D66, 0x10D6F, 0x10D86,
   0x118A0, 0x118E0, 0x16E40, 0x16E80, 0x1E900, 0x1E944]

def alphabeticRuns : List Nat → Bool
  | first :: stop :: rest =>
    (decide (stop ≤ 0xD800) || decide (0xE000 ≤ first) && decide (stop ≤ 0x110000)) &&
      (spans letterBounds first (stop - 1) || spans alphabeticSignBounds first (stop - 1)) && alphabeticRuns rest
  | _ => true

def cased (run : Progression) : Bool :=
  (spans casedBounds run.first run.last && spans casedBounds run.target (run.target + (run.last - run.first))) ||
    (List.range (run.last - run.first + 1)).all fun distance =>
      distance % run.step != 0 || (spans casedBounds (run.first + distance) (run.first + distance) &&
        spans casedBounds (run.target + distance) (run.target + distance))

theorem cased_foldings : foldings.all cased = true ∧ alphabeticRuns casedBounds = true := by
  decide +kernel

theorem bounds_ascend :
    letterBounds.IsChain (· ≤ ·) ∧ alphabeticSignBounds.IsChain (· ≤ ·) ∧ casedBounds.IsChain (· ≤ ·) := by
  decide +kernel

theorem toNat_ofNat {code : Nat} (valid : code.isValidChar) : (Char.ofNat code).toNat = code := by
  rw [Char.ofNat, dif_pos valid]
  rfl

/-- What lies in runs of letters and alphabetic signs is the code point of a word character. -/
theorem isWord_of_alphabeticRuns {limits : List Nat} {point : Nat} (alphabetic : alphabeticRuns limits = true)
    (member : within limits point = true) : point.isValidChar ∧ isWord (Char.ofNat point) = true := by
  induction limits using alphabeticRuns.induct with
  | case1 first stop rest ih =>
    simp only [alphabeticRuns, Bool.and_eq_true, Bool.or_eq_true, decide_eq_true_eq] at alphabetic
    simp only [within_cons, Bool.and_eq_true, decide_eq_true_eq, Bool.or_eq_true] at member
    obtain ⟨⟨scalar, alphabetic⟩, others⟩ := alphabetic
    rcases member.2 with inside | later
    · have valid : point.isValidChar := by
        rcases scalar with low | ⟨above, below⟩
        · exact .inl (Nat.lt_of_lt_of_le inside low)
        · exact .inr ⟨Nat.lt_of_lt_of_le (by decide) (Nat.le_trans above member.1), Nat.lt_of_lt_of_le inside below⟩
      refine ⟨valid, ?_⟩
      unfold isWord isAlphabetic isLetter
      rw [toNat_ofNat valid]
      rcases alphabetic with letters | signs
      · simp [within_of_spans bounds_ascend.1.pairwise letters member.1 (Nat.le_pred_of_lt inside)]
      · simp [within_of_spans bounds_ascend.2.1.pairwise signs member.1 (Nat.le_pred_of_lt inside)]
    · exact ih others later
  | case2 limits other =>
    exfalso
    unfold within at member
    split at member
    · exact other _ _ _ rfl
    · cases member

theorem covers_iff {run : Progression} {point : Nat} : run.covers point = true ↔
    run.first ≤ point ∧ point ≤ run.last ∧ (point - run.first) % run.step = 0 := by
  simp only [Progression.covers, Bool.and_eq_true, decide_eq_true_eq, beq_iff_eq, and_assoc]

theorem within_of_covers {run : Progression} (folds : run ∈ foldings) {point : Nat} (covered : run.covers point = true) :
    within casedBounds point = true ∧ within casedBounds (run.target + (point - run.first)) = true := by
  have ascends := bounds_ascend.2.2.pairwise
  have has := List.all_eq_true.mp cased_foldings.1 run folds
  obtain ⟨above, below, inStep⟩ := covers_iff.mp covered
  unfold cased at has
  rcases (Bool.or_eq_true _ _).mp has with whole | single
  · obtain ⟨sources, targets⟩ := (Bool.and_eq_true _ _).mp whole
    constructor
    · exact within_of_spans ascends sources above below
    · exact within_of_spans ascends targets (Nat.le_add_right _ _) (Nat.add_le_add_left (Nat.sub_le_sub_right below _) _)
  · have one := List.all_eq_true.mp single (point - run.first) (List.mem_range.mpr (by omega))
    simp only [inStep, Nat.add_sub_cancel' above, bne_self_eq_false, Bool.false_or, Bool.and_eq_true] at one
    constructor
    · exact within_of_spans ascends one.1 (Nat.le_refl _) (Nat.le_refl _)
    · exact within_of_spans ascends one.2 (Nat.le_refl _) (Nat.le_refl _)

theorem isWord_of_cased {char : Char} (has : within casedBounds char.toNat = true) : isWord char = true := by
  rw [← Char.ofNat_toNat char]
  exact (isWord_of_alphabeticRuns cased_foldings.2 has).2

theorem toNat_of_cased {point : Nat} (has : within casedBounds point = true) : (Char.ofNat point).toNat = point :=
  toNat_ofNat (isWord_of_alphabeticRuns cased_foldings.2 has).1

/-- Whether no run, of runs that begin one behind the other, covers a point in steps from `low` to `high`. -/
def missed (low high step : Nat) : List Progression → Bool
  | [] => true
  | run :: rest =>
    match Nat.blt high run.first with
    | true => true
    | false =>
      match Nat.blt run.last low with
      | true => missed low high step rest
      | false => (run.step == 2 && (step == 2 || low == high) && (low + run.first) % 2 == 1) && missed low high step rest

def apart : List Progression → Bool
  | [] => true
  | run :: rest => missed run.first run.last run.step rest && apart rest

/-- The runs that fold begin one behind the other, none covers what another does, and none what another maps to. -/
theorem foldings_apart : (foldings.IsChain fun run other => run.first ≤ other.first) ∧ apart foldings = true ∧
    (foldings.all fun run => missed run.target (run.target + (run.last - run.first)) run.step foldings) = true := by
  decide +kernel

theorem covers_eq_false_of_missed {runs : List Progression} {low high step point : Nat}
    (ascends : runs.Pairwise fun run other => run.first ≤ other.first) (free : missed low high step runs = true)
    (above : low ≤ point) (below : point ≤ high) (inStep : (point - low) % step = 0) :
    ∀ run ∈ runs, run.covers point = false := by
  induction runs with
  | nil => exact List.forall_mem_nil _
  | cons run rest ih =>
    obtain ⟨order, ascends⟩ := List.pairwise_cons.mp ascends
    unfold missed at free
    cases behind : Nat.blt high run.first with
    | true =>
      -- This run begins above `high`, and so do all behind it.
      have late {other : Progression} (begins : run.first ≤ other.first) : other.covers point = false := by
        have outside : point < other.first :=
          Nat.lt_of_le_of_lt below (Nat.lt_of_lt_of_le (Nat.blt_eq.mp behind) begins)
        rw [Progression.covers, decide_eq_false (Nat.not_le.mpr outside), Bool.false_and, Bool.false_and]
      exact List.forall_mem_cons.mpr ⟨late (Nat.le_refl _), fun other mem => late (order other mem)⟩
    | false =>
      rw [behind] at free
      cases ahead : Nat.blt run.last low with
      | true =>
        rw [ahead] at free
        have outside : run.last < point := Nat.lt_of_lt_of_le (Nat.blt_eq.mp ahead) above
        refine List.forall_mem_cons.mpr ⟨?_, ih ascends free⟩
        rw [Progression.covers, decide_eq_false (Nat.not_le.mpr outside), Bool.and_false, Bool.false_and]
      | false =>
        rw [ahead] at free
        -- The run overlaps, but takes every other point, and those are not the ones in steps from `low`.
        obtain ⟨odd, free⟩ := (Bool.and_eq_true _ _).mp free
        refine List.forall_mem_cons.mpr ⟨?_, ih ascends free⟩
        simp only [Bool.and_eq_true, Bool.or_eq_true, beq_iff_eq] at odd
        obtain ⟨⟨double, alike⟩, odd⟩ := odd
        have even : (point - low) % 2 = 0 := by
          rcases alike with rfl | rfl
          · exact inStep
          · omega
        rw [← Bool.not_eq_true, covers_iff, double]
        omega

theorem find?_eq_of_apart {runs : List Progression} {run : Progression} {point : Nat}
    (ascends : runs.Pairwise fun run other => run.first ≤ other.first) (distinct : apart runs = true)
    (mem : run ∈ runs) (covered : run.covers point = true) :
    runs.find? (fun run => run.covers point) = some run := by
  induction runs with
  | nil => cases mem
  | cons other rest ih =>
    obtain ⟨-, later⟩ := List.pairwise_cons.mp ascends
    obtain ⟨free, distinct⟩ := (Bool.and_eq_true _ _).mp distinct
    rcases List.mem_cons.mp mem with rfl | mem
    · exact List.find?_cons_of_pos covered
    · cases covers : other.covers point with
      | false => rw [List.find?_cons_of_neg (by simp [covers]), ih later distinct mem]
      | true =>
        obtain ⟨above, below, inStep⟩ := covers_iff.mp covers
        cases covered.symm.trans (covers_eq_false_of_missed later free above below inStep run mem)

/-- A character that no run covers folds to itself, and the others as the run that covers them maps them. -/
theorem fold_cases (char : Char) :
    (fold char = char ∧ foldings.find? (fun run => run.covers char.toNat) = none) ∨
      ∃ run ∈ foldings, run.covers char.toNat = true ∧ fold char = Char.ofNat (run.target + (char.toNat - run.first)) := by
  unfold fold Progression.apply
  split
  · rename_i run found
    have covered := List.find?_some found
    exact .inr ⟨run, List.mem_of_find?_eq_some found, covered, rfl⟩
  · rename_i found
    exact .inl ⟨rfl, found⟩

theorem fold_of_covers {run : Progression} {char : Char} (folds : run ∈ foldings)
    (covered : run.covers char.toNat = true) : fold char = Char.ofNat (run.target + (char.toNat - run.first)) := by
  rw [fold, Progression.apply, find?_eq_of_apart foldings_apart.1.pairwise foldings_apart.2.1 folds covered]

theorem isWord_fold (char : Char) : isWord (fold char) = isWord char := by
  rcases fold_cases char with ⟨own, _⟩ | ⟨run, folds, covered, maps⟩
  · rw [own]
  · obtain ⟨source, target⟩ := within_of_covers folds covered
    rw [maps, isWord_of_cased source, isWord_of_cased ((toNat_of_cased target).symm ▸ target)]

/-- Characters that fold to the letters of a word are word characters. -/
theorem isWord_of_fold_eq {letters written : List Char} (nonempty : letters ≠ []) (word : letters.all isWord = true)
    (same : written.map fold = letters.map fold) : written ≠ [] ∧ ∀ char ∈ written, isWord char = true := by
  refine ⟨?_, fun char mem => ?_⟩
  · rintro rfl
    exact nonempty (List.map_eq_nil_iff.mp same.symm)
  · have folded : fold char ∈ letters.map fold := same ▸ List.mem_map_of_mem mem
    obtain ⟨letter, mem, folds⟩ := List.mem_map.mp folded
    rw [← isWord_fold, ← folds, isWord_fold]
    exact List.all_eq_true.mp word letter mem

theorem fold_fold (char : Char) : fold (fold char) = fold char := by
  rcases fold_cases char with ⟨own, _⟩ | ⟨run, folds, covered, maps⟩
  · rw [own, own]
  · have target := (within_of_covers folds covered).2
    obtain ⟨_, below, inStep⟩ := covers_iff.mp covered
    have free : foldings.find? (fun other => other.covers (run.target + (char.toNat - run.first))) = none := by
      rw [List.find?_eq_none]
      intro other mem
      have missed := List.all_eq_true.mp foldings_apart.2.2 run folds
      rw [covers_eq_false_of_missed foldings_apart.1.pairwise missed (Nat.le_add_right _ _)
        (Nat.add_le_add_left (Nat.sub_le_sub_right below _) _) (by rwa [Nat.add_sub_cancel_left]) other mem]
      nofun
    rw [maps, fold, Progression.apply, toNat_of_cased target, free]

/-- The variants of a character are the characters that fold as it does. -/
theorem mem_caseVariants_iff {char variant : Char} : variant ∈ caseVariants char ↔ fold variant = fold char := by
  rw [caseVariants, List.mem_cons, Progression.preimages, List.mem_filterMap]
  constructor
  · rintro (rfl | ⟨run, folds, maps⟩)
    · exact fold_fold char
    · dsimp only at maps
      split at maps
      · rename_i covers
        cases maps
        obtain ⟨above, covered⟩ := (Bool.and_eq_true _ _).mp covers
        have above := of_decide_eq_true above
        have source := toNat_of_cased (within_of_covers folds covered).1
        rw [fold_of_covers folds (by rwa [source]), source, Nat.add_sub_cancel_left, Nat.add_sub_cancel' above,
          Char.ofNat_toNat]
      · cases maps
  · intro same
    rcases fold_cases variant with ⟨own, _⟩ | ⟨run, folds, covered, maps⟩
    · exact .inl (own.symm.trans same)
    · have target := toNat_of_cased (within_of_covers folds covered).2
      refine .inr ⟨run, folds, ?_⟩
      rw [← same, maps, target, Nat.add_sub_cancel_left, Nat.add_sub_cancel' (covers_iff.mp covered).1]
      simp [covered, Char.ofNat_toNat]

-- Characters that differ in case only are word characters together.
theorem isWord_of_mem_caseVariants {char variant : Char} (mem : variant ∈ caseVariants char) :
    isWord variant = isWord char := by
  rw [← isWord_fold, mem_caseVariants_iff.mp mem, isWord_fold]

end BslLint.Text
