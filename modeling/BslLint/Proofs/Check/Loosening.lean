import BslLint.Proofs.Check.AuthorizedNumbers
import BslLint.Proofs.Check.Configuring
import BslLint.Proofs.Number.Monotone

/-! Looser parameters. A rule that lets more pass reports a part of what it reported before, at the same places and in the
same order. -/

set_option autoImplicit false

namespace BslLint

namespace Parameters

variable {parameters others : Parameters} {key : String} {Value : Type} {read : Json → Option Value}

theorem typed?_of_get? {value : Json} {result : Value} (stated : Dictionary.get? parameters key = some value)
    (typed : read value = some result) : parameters.typed? key read = .ok (some result) := by
  rw [typed?, stated]
  simp only [typed]

theorem nullable?_of_get? {value : Json} {result : Value} (stated : Dictionary.get? parameters key = some value)
    (typed : read value = some result) (null : read .null = none) :
    parameters.nullable? key read = .ok (some result) := by
  unfold nullable?
  split
  · rename_i isNull
    rw [stated, Option.some.injEq] at isNull
    rw [isNull, null] at typed
    cases typed
  · exact typed?_of_get? stated typed

theorem nullable?_congr (same : Dictionary.get? parameters key = Dictionary.get? others key) :
    parameters.nullable? key read = others.nullable? key read := by
  rw [nullable?, nullable?, typed?, typed?, same]

end Parameters

open Source

theorem Source.map_checkLines_sublist {Value : Type} {check other : Nat → List Char → List Finding} (document : Document)
    (part : Finding → Value) (each : ∀ number line, ((check number line).map part).Sublist ((other number line).map part)) :
    ((checkLines document check).map part).Sublist ((checkLines document other).map part) := by
  rw [checkLines, checkLines, List.map_flatMap, List.map_flatMap]
  exact List.Sublist.flatMap_right _ fun numbered _ => each numbered.1 numbered.2

namespace LineLength

variable {tight loose : LineLength}

theorem ranges_check_sublist (le : tight.limit ≤ loose.limit) (document : Document) :
    ((Rule.check loose document).map Finding.range).Sublist ((Rule.check tight document).map Finding.range) := by
  refine map_checkLines_sublist document Finding.range fun number line => ?_
  rw [checkLine, checkLine]
  -- The arguments of a finding state the limit, so that only the ranges are the same.
  by_cases long : loose.limit < (Text.trimEnd line).length
  · rw [if_pos long, if_pos (le.trans_lt long)]
    exact .refl _
  · rw [if_neg long]
    exact List.nil_sublist _

theorem limit_of_decision {parameters : Parameters} {change : LineLength → LineLength} {limit : Nat}
    (accepted : decision parameters = .ok change) (stated : Dictionary.get? parameters limitKey = some (.ofNat limit))
    (rule : LineLength) : (change rule).limit = limit := by
  obtain ⟨found, read, made⟩ := Except.bind_ok accepted
  obtain ⟨_, _, read⟩ := Except.bind_ok read
  rw [Parameters.typed?_of_get? stated (show Json.asNat? (.ofNat limit) = some limit from rfl)] at read
  obtain ⟨_, given, read⟩ := Except.bind_ok read
  cases given
  cases made
  dsimp only [Option.getD_some] at read
  by_cases zero : limit = 0
  · rw [if_pos zero] at read
    cases read
  · rw [if_neg zero] at read
    exact (Except.ok.inj read).symm

end LineLength

namespace CommentedCode

open Number

variable {tight loose : CommentedCode}

theorem isCode_of_le (le : tight.threshold ≤ loose.threshold) {block : List CommentLine} (code : loose.isCode block = true) :
    tight.isCode block = true := by
  simp only [isCode, Bool.and_eq_true, decide_eq_true_eq] at code ⊢
  exact ⟨code.1, le.trans code.2⟩

theorem check_sublist (le : tight.threshold ≤ loose.threshold) (document : Document) :
    (Rule.check loose document).Sublist (Rule.check tight document) :=
  (List.monotone_filter_right _ fun _ => isCode_of_le le).filterMap _

theorem single?_mono {share greater : FiniteDouble} {single other : ℚ} (nonneg : 0 ≤ share.magnitude)
    (nonnegGreater : 0 ≤ greater.magnitude) (le : share.toRat ≤ greater.toRat) (rounded : single? share = some single)
    (roundedGreater : single? greater = some other) : single ≤ other := by
  obtain ⟨magnitude, round, rfl⟩ := Option.map_eq_some_iff.mp rounded
  obtain ⟨magnitudeGreater, roundGreater, rfl⟩ := Option.map_eq_some_iff.mp roundedGreater
  have least := binary32.round_nonneg nonneg round
  have leastGreater := binary32.round_nonneg nonnegGreater roundGreater
  unfold FiniteDouble.toRat at le
  cases sign : share.negative <;> cases signGreater : greater.negative
  all_goals simp only [sign, signGreater, if_true, if_false, Bool.false_eq_true] at le ⊢
  · exact binary32.round_mono nonneg le round roundGreater
  · -- Both are zero.
    have zero : share.magnitude = 0 := by linarith
    have zeroGreater : greater.magnitude = 0 := by linarith
    rw [zero, Format.round_zero, Option.some.injEq] at round
    rw [zeroGreater, Format.round_zero, Option.some.injEq] at roundGreater
    simp [← round, ← roundGreater]
  · exact (neg_nonpos.mpr least).trans leastGreater
  · exact neg_le_neg (binary32.round_mono nonnegGreater (neg_le_neg_iff.mp le) roundGreater round)

theorem thresholdOf_eq_ok {share : FiniteDouble} {threshold : ℚ} (accepted : thresholdOf share = .ok threshold) :
    single? share = some threshold := by
  unfold thresholdOf at accepted
  split at accepted
  · split at accepted
    · cases accepted
      assumption
    · cases accepted
  · cases accepted

theorem threshold_of_decision {parameters : Parameters} {change : CommentedCode → CommentedCode} {value : Json}
    {share : FiniteDouble} (accepted : decision parameters = .ok change)
    (stated : Dictionary.get? parameters thresholdKey = some value) (number : asDouble? value = some share)
    (rule : CommentedCode) : single? share = some (change rule).threshold := by
  obtain ⟨_, _, accepted⟩ := Except.bind_ok accepted
  rw [Parameters.nullable?_of_get? stated number rfl] at accepted
  obtain ⟨_, given, accepted⟩ := Except.bind_ok accepted
  cases given
  obtain ⟨threshold, made, accepted⟩ := Except.bind_ok accepted
  cases accepted
  exact thresholdOf_eq_ok made

end CommentedCode

namespace MagicNumber

variable {tight loose : MagicNumber}

theorem isMagic_of_subset (authorized : tight.authorized ⊆ loose.authorized)
    (indexes : tight.allowIndexes = true → loose.allowIndexes = true) {number : Span} (magic : loose.isMagic number = true) :
    tight.isMagic number = true := by
  simp only [isMagic, isAuthorized, Bool.and_eq_true, Bool.not_eq_true', Bool.and_eq_false_iff] at magic ⊢
  constructor
  · cases value : Number.Double.ofText? (numberText number) with
    | none => rfl
    | some value =>
      have listed := magic.1
      simp only [value, List.contains_eq_mem, decide_eq_false_iff_not] at listed ⊢
      exact fun mem => listed (authorized mem)
  · exact magic.2.imp_left fun refused => Bool.eq_false_iff.mpr fun allowed => Bool.eq_false_iff.mp refused (indexes allowed)

theorem check_sublist (authorized : tight.authorized ⊆ loose.authorized)
    (indexes : tight.allowIndexes = true → loose.allowIndexes = true) (document : Document) :
    (Rule.check loose document).Sublist (Rule.check tight document) := by
  have each (number : Nat) (line : List Char) :
      ((loose.checkLine number line).map id).Sublist ((tight.checkLine number line).map id) := by
    rw [List.map_id, List.map_id, checkLine, checkLine]
    split
    · exact .refl _
    · exact (List.monotone_filter_right _ fun _ => isMagic_of_subset authorized indexes).map _
  have findings := map_checkLines_sublist document id each
  rwa [List.map_id, List.map_id] at findings

/-- Both parameters are taken over on their own; one that is not given leaves what it is for. -/
theorem exists_of_decision {parameters : Parameters} {change : MagicNumber → MagicNumber}
    (accepted : decision parameters = .ok change) (rule : MagicNumber) :
    ∃ list allow, parameters.nullable? authorizedKey Json.asString? = .ok list ∧
      parameters.nullable? indexesKey Json.asBool? = .ok allow ∧
      list.elim (.ok rule.authorized) authorizedOf = .ok (change rule).authorized ∧
      (change rule).allowIndexes = allow.getD rule.allowIndexes := by
  obtain ⟨_, _, accepted⟩ := Except.bind_ok accepted
  obtain ⟨list, listed, accepted⟩ := Except.bind_ok accepted
  obtain ⟨allow, allowed, accepted⟩ := Except.bind_ok accepted
  refine ⟨list, allow, listed, allowed, ?_⟩
  cases list with
  | none =>
    cases accepted
    exact ⟨rfl, rfl⟩
  | some list =>
    obtain ⟨authorized, read, accepted⟩ := Except.bind_ok accepted
    cases accepted
    exact ⟨read, rfl⟩

end MagicNumber

namespace BuiltinRule

open Number

/-- The second state lets pass all that the first does. -/
inductive Loosens : BuiltinRule → BuiltinRule → Prop where
  | limit {tight loose : LineLength} (le : tight.limit ≤ loose.limit) : Loosens (.lineLength tight) (.lineLength loose)
  | threshold {tight loose : CommentedCode} (le : tight.threshold ≤ loose.threshold) :
      Loosens (.commentedCode tight) (.commentedCode loose)
  | numbers {tight loose : MagicNumber} (authorized : tight.authorized ⊆ loose.authorized)
      (indexes : tight.allowIndexes = true → loose.allowIndexes = true) : Loosens (.magicNumber tight) (.magicNumber loose)

theorem Loosens.ranges_sublist {tight loose : BuiltinRule} (loosens : Loosens tight loose) (document : Document) :
    ((Rule.check loose document).map Finding.range).Sublist ((Rule.check tight document).map Finding.range) := by
  cases loosens with
  | limit le => exact LineLength.ranges_check_sublist le document
  | threshold le => exact (CommentedCode.check_sublist le document).map _
  | numbers authorized indexes => exact (MagicNumber.check_sublist authorized indexes document).map _

theorem Loosens.check_sublist {tight loose : BuiltinRule} (loosens : Loosens tight loose) (other : tight.kind ≠ .lineLength)
    (document : Document) : (Rule.check loose document).Sublist (Rule.check tight document) := by
  cases loosens with
  | limit le => exact absurd rfl other
  | threshold le => exact CommentedCode.check_sublist le document
  | numbers authorized indexes => exact MagicNumber.check_sublist authorized indexes document

/-- A value of a parameter, and one that lets more pass. The sign of a number is not part of its magnitude. -/
inductive Looser : BuiltinRule → String → Json → Json → Prop where
  | limit {rule : LineLength} {limit wider : Nat} (le : limit ≤ wider) :
      Looser (.lineLength rule) LineLength.limitKey (.ofNat limit) (.ofNat wider)
  | threshold {rule : CommentedCode} {value wider : Json} {share greater : FiniteDouble}
      (number : CommentedCode.asDouble? value = some share) (numberWider : CommentedCode.asDouble? wider = some greater)
      (nonneg : 0 ≤ share.magnitude) (nonnegGreater : 0 ≤ greater.magnitude) (le : share.toRat ≤ greater.toRat) :
      Looser (.commentedCode rule) CommentedCode.thresholdKey value wider
  | numbers {rule : MagicNumber} {list longer : String}
      (subset : ∀ item, MagicNumber.ListItem list.toList item → MagicNumber.ListItem longer.toList item) :
      Looser (.magicNumber rule) MagicNumber.authorizedKey (.string list) (.string longer)
  | indexes {rule : MagicNumber} : Looser (.magicNumber rule) MagicNumber.indexesKey (.bool false) (.bool true)

variable {rule tight loose : BuiltinRule} {key : String} {value wider : Json} {parameters : Parameters}

theorem Looser.loosens (looser : Looser rule key value wider)
    (accepted : decision (Dictionary.insert parameters key value) rule = .ok tight)
    (acceptedWider : decision (Dictionary.insert parameters key wider) rule = .ok loose) : Loosens tight loose := by
  have stated := Dictionary.get?_insert_self parameters key value
  have statedWider := Dictionary.get?_insert_self parameters key wider
  have same (other : String) (distinct : key ≠ other) := (Dictionary.get?_insert_of_ne parameters value distinct).trans
    (Dictionary.get?_insert_of_ne parameters wider distinct).symm
  cases looser with
  | @limit rule limit wider le =>
    obtain ⟨change, settled, rfl⟩ := Except.of_map_ok accepted
    obtain ⟨changeWider, settledWider, rfl⟩ := Except.of_map_ok acceptedWider
    refine .limit ?_
    rw [LineLength.limit_of_decision settled stated, LineLength.limit_of_decision settledWider statedWider]
    exact le
  | @threshold rule _ _ share greater number numberWider nonneg nonnegGreater le =>
    obtain ⟨change, settled, rfl⟩ := Except.of_map_ok accepted
    obtain ⟨changeWider, settledWider, rfl⟩ := Except.of_map_ok acceptedWider
    exact .threshold (CommentedCode.single?_mono nonneg nonnegGreater le
      (CommentedCode.threshold_of_decision settled stated number rule)
      (CommentedCode.threshold_of_decision settledWider statedWider numberWider rule))
  | @numbers rule list longer subset =>
    obtain ⟨change, settled, rfl⟩ := Except.of_map_ok accepted
    obtain ⟨changeWider, settledWider, rfl⟩ := Except.of_map_ok acceptedWider
    obtain ⟨_, allow, listed, allowed, read, indexes⟩ := MagicNumber.exists_of_decision settled rule
    obtain ⟨_, allowWider, listedWider, allowedWider, readWider, indexesWider⟩ :=
      MagicNumber.exists_of_decision settledWider rule
    rw [Parameters.nullable?_of_string stated] at listed
    rw [Parameters.nullable?_of_string statedWider] at listedWider
    cases listed
    cases listedWider
    rw [Parameters.nullable?_congr (same MagicNumber.indexesKey (by decide)), allowedWider] at allowed
    cases allowed
    refine .numbers (fun number mem => ?_) fun allowed => ?_
    · obtain ⟨item, listed, number⟩ := (MagicNumber.mem_authorized_iff read).mp mem
      exact (MagicNumber.mem_authorized_iff readWider).mpr ⟨item, subset item listed, number⟩
    · rw [indexesWider, ← indexes, allowed]
  | @indexes rule =>
    obtain ⟨change, settled, rfl⟩ := Except.of_map_ok accepted
    obtain ⟨changeWider, settledWider, rfl⟩ := Except.of_map_ok acceptedWider
    obtain ⟨list, _, listed, _, read, _⟩ := MagicNumber.exists_of_decision settled rule
    obtain ⟨listWider, _, listedWider, allowedWider, readWider, indexesWider⟩ :=
      MagicNumber.exists_of_decision settledWider rule
    rw [Parameters.nullable?_congr (same MagicNumber.authorizedKey (by decide)), listedWider] at listed
    cases listed
    rw [readWider] at read
    rw [Parameters.nullable?_of_get? statedWider (show Json.asBool? (.bool true) = some true from rfl) rfl] at allowedWider
    cases allowedWider
    have same : (changeWider rule).authorized = (change rule).authorized := Except.ok.inj read
    refine .numbers ?_ fun _ => indexesWider
    rw [same]
    exact List.Subset.refl _

/-- With looser parameters a rule reports a part of what it reported before, in the same order and at the same places. The
places are all that is the same where the limit is part of the message. A greater limit, a greater threshold, a list with
all items of another, and indexes that are allowed are looser, also next to other parameters that stay. -/
theorem loosened_sublist (document : Document) :
    (∀ tight loose, Loosens tight loose →
      ((Rule.check loose document).map Finding.range).Sublist ((Rule.check tight document).map Finding.range) ∧
      (tight.kind ≠ .lineLength → (Rule.check loose document).Sublist (Rule.check tight document))) ∧
    ∀ rule tight loose key value wider parameters, Looser rule key value wider →
      Rule.runConfigure (Dictionary.insert parameters key value) rule = (.ok (), tight) →
      Rule.runConfigure (Dictionary.insert parameters key wider) rule = (.ok (), loose) → Loosens tight loose := by
  constructor
  · intro tight loose loosens
    exact ⟨loosens.ranges_sublist document, fun other => loosens.check_sublist other document⟩
  · intro rule tight loose key value wider parameters looser accepted acceptedWider
    rw [runConfigure_eq_ok_iff] at accepted acceptedWider
    exact looser.loosens accepted acceptedWider

/-- A list with an item more. Without indexes the first number would be reported if the list did not have it. -/
theorem loosened_sublist_numbers :
    let before : MagicNumber := ⟨[.finite ⟨false, 1⟩], true⟩
    let parameters : Parameters := [(MagicNumber.indexesKey, .bool false)]
    let tight : BuiltinRule := .magicNumber ⟨[.finite ⟨false, 1⟩], false⟩
    let loose : BuiltinRule := .magicNumber ⟨[.finite ⟨false, 3⟩, .finite ⟨false, 1⟩], false⟩
    let document : Document := ⟨⟨"m.bsl"⟩, .bsl, "Если А[1] > 3 Тогда Б(7);".toList⟩
    Looser (.magicNumber before) MagicNumber.authorizedKey (.string "1") (.string "3, 1") ∧
      Rule.runConfigure (Dictionary.insert parameters MagicNumber.authorizedKey (.string "1")) (.magicNumber before) =
        (.ok (), tight) ∧
      Rule.runConfigure (Dictionary.insert parameters MagicNumber.authorizedKey (.string "3, 1")) (.magicNumber before) =
        (.ok (), loose) ∧
      tight.kind ≠ .lineLength ∧ Loosens tight loose ∧
      (Rule.check loose document).Sublist (Rule.check tight document) ∧
      Rule.check tight document = [⟨.onLine 0 12 13, ["3"]⟩, ⟨.onLine 0 22 23, ["7"]⟩] ∧
      Rule.check loose document = [⟨.onLine 0 22 23, ["7"]⟩] := by
  intro before parameters tight loose document
  have looser : Looser (.magicNumber before) MagicNumber.authorizedKey (.string "1") (.string "3, 1") := by
    refine .numbers fun item listed => ?_
    have items : MagicNumber.listItems "1".toList = [['1']] := by decide +kernel
    rw [← MagicNumber.mem_listItems_iff, items, List.mem_singleton] at listed
    subst listed
    exact MagicNumber.mem_listItems_iff.mp (by decide +kernel)
  have accepted : Rule.runConfigure (Dictionary.insert parameters MagicNumber.authorizedKey (.string "1"))
      (.magicNumber before) = (.ok (), tight) := runConfigure_eq_ok_iff.mpr (by decide +kernel)
  have acceptedWider : Rule.runConfigure (Dictionary.insert parameters MagicNumber.authorizedKey (.string "3, 1"))
      (.magicNumber before) = (.ok (), loose) := runConfigure_eq_ok_iff.mpr (by decide +kernel)
  have loosens := (loosened_sublist document).2 _ _ _ _ _ _ _ looser accepted acceptedWider
  exact ⟨looser, accepted, acceptedWider, nofun, loosens, ((loosened_sublist document).1 _ _ loosens).2 nofun,
    by decide +kernel, by decide +kernel⟩

end BuiltinRule

end BslLint
