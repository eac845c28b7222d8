import BslLint.Proofs.Check.Configuring
import BslLint.Proofs.Check.NumberSigns
import BslLint.Proofs.Items
import BslLint.Proofs.Number.Decimal
import BslLint.Proofs.Text.Split

/-! Numbers that may stand anywhere. They are compared by their values, each rounded to a double, so that it does not
matter how a number is spelled. Only zero has a sign of its own: with a minus and without one it is not the same. -/

set_option autoImplicit false

namespace BslLint

namespace Number

def signed (negative : Bool) (magnitude : ℚ) : ℚ :=
  if negative then -magnitude else magnitude

theorem Unsigned.nonneg {text : List Char} {magnitude : ℚ} (unsigned : Unsigned text magnitude) : 0 ≤ magnitude := by
  cases unsigned <;> positivity

theorem Plain.nonneg {text : List Char} {negative : Bool} {magnitude : ℚ} (plain : Plain text negative magnitude) :
    0 ≤ magnitude := by
  cases plain with
  | unsigned unsigned => exact unsigned.nonneg
  | minus unsigned => exact unsigned.nonneg

theorem signed_not (negative : Bool) (magnitude : ℚ) : signed (!negative) magnitude = -signed negative magnitude := by
  cases negative <;> simp [signed]

theorem abs_signed (negative : Bool) {magnitude : ℚ} (nonneg : 0 ≤ magnitude) : |signed negative magnitude| = magnitude := by
  cases negative <;> simp [signed, abs_of_nonneg nonneg]

/-- Equal numbers have the same magnitude, and the same sign unless they are zero. -/
theorem eq_of_signed_eq {negative other : Bool} {magnitude otherMagnitude : ℚ} (nonneg : 0 ≤ magnitude)
    (nonnegOther : 0 ≤ otherMagnitude) (same : signed other otherMagnitude = signed negative magnitude) :
    otherMagnitude = magnitude ∧ (magnitude ≠ 0 → other = negative) := by
  have magnitudes : otherMagnitude = magnitude := by
    rw [← abs_signed other nonnegOther, same, abs_signed negative nonneg]
  subst magnitudes
  refine ⟨rfl, fun nonzero => ?_⟩
  by_contra differs
  rw [Bool.eq_not.mpr differs, signed_not, neg_eq_self] at same
  rw [← abs_signed negative nonneg, same, abs_zero] at nonzero
  exact nonzero rfl

end Number

namespace MagicNumber

open Source Text Number

/-- An item of a list: what stands between commas, without the white space around it, if anything is left. -/
structure ListItem (list item : List Char) : Prop where
  nonempty : item ≠ []
  part : ∃ before gap trailing after, list = before ++ (gap ++ (item ++ trailing) ++ after) ∧
    ',' ∉ gap ++ (item ++ trailing) ∧ isBlank gap = true ∧ isBlank trailing = true ∧
    (∀ char ∈ before.getLast?, char = ',') ∧ ∀ char ∈ after.head?, char = ','
  starts : ∀ char ∈ item.head?, isSpace char = false
  ends : ∀ char ∈ item.getLast?, isSpace char = false

theorem mem_listItems_iff {list item : List Char} : item ∈ listItems list ↔ ListItem list item := by
  simp only [listItems, List.mem_filter, List.mem_map, mem_splitOn_iff, trim_eq_iff, bne_iff_ne, ne_eq]
  constructor
  · rintro ⟨⟨_, ⟨before, after, rfl, single, starts, ends⟩, ⟨gap, trailing, blank, blankToo, rfl⟩, first, last⟩, nonempty⟩
    exact ⟨nonempty, ⟨before, gap, trailing, after, rfl, single, blank, blankToo, starts, ends⟩, first, last⟩
  · rintro ⟨nonempty, ⟨before, gap, trailing, after, rfl, single, blank, blankToo, starts, ends⟩, first, last⟩
    exact ⟨⟨_, ⟨before, after, rfl, single, starts, ends⟩, ⟨gap, trailing, blank, blankToo, rfl⟩, first, last⟩, nonempty⟩

theorem numberOf_eq_ok_iff {item : List Char} {value : Double} :
    numberOf item = .ok value ↔ Double.ofText? item = some value := by
  unfold numberOf
  cases Double.ofText? item <;> simp

theorem mem_authorized_iff {list : String} {values : List Double} (read : authorizedOf list = .ok values)
    {value : Double} : value ∈ values ↔ ∃ item, ListItem list.toList item ∧ Double.ofText? item = some value := by
  rw [mem_iff_of_mapM_eq_ok read]
  simp only [mem_listItems_iff, numberOf_eq_ok_iff]

/-- Parameters that state a list are accepted with the numbers of that list. -/
theorem runConfigure_eq_ok_iff {parameters : Parameters} {list : String} {fresh rule : MagicNumber}
    (stated : Dictionary.get? parameters authorizedKey = some (.string list)) :
    Rule.runConfigure parameters fresh = (.ok (), rule) ↔
      parameters.onlyKnown [authorizedKey, indexesKey] = .ok () ∧
        ∃ allow, parameters.nullable? indexesKey Json.asBool? = .ok allow ∧
          authorizedOf list = .ok rule.authorized ∧ rule.allowIndexes = allow.getD fresh.allowIndexes := by
  have run : Rule.runConfigure parameters fresh = Rule.settle (decision parameters) fresh := settles parameters fresh
  obtain ⟨authorized, allowIndexes⟩ := rule
  rw [run, Rule.settle_eq_ok_iff, decision, Parameters.nullable?_of_string stated]
  simp [Except.bind_eq_ok_iff, pure, Except.pure, Unique.exists_iff, and_assoc, @eq_comm _ allowIndexes]

theorem authorizes_iff {rule : MagicNumber} {list : String} (read : authorizedOf list = .ok rule.authorized)
    {taken : Span} {negative : Bool} {magnitude : ℚ} (plain : Plain (numberText taken) negative magnitude) :
    Authorizes rule taken ↔
      ∃ item, ListItem list.toList item ∧ Double.ofText? item = some (.rounded negative magnitude) := by
  rw [Authorizes, plain.ofText?_eq]
  simp only [Option.some.injEq, exists_eq_right', mem_authorized_iff read]

/-- A number whose value an item of the list has is not reported, whatever the spelling of both, with one exception: a zero
whose sign no zero of the list has is reported as any other number is. -/
theorem equal_number_reported_iff {parameters : Parameters} {list : String} {fresh rule : MagicNumber}
    {document : Document} {index : Nat} {line : List Char} {numbers : List Span} {number taken : Span}
    {negative itemNegative : Bool} {magnitude itemMagnitude : ℚ} {item : List Char}
    (stated : Dictionary.get? parameters authorizedKey = some (.string list))
    (accepted : Rule.runConfigure parameters fresh = (.ok (), rule))
    (there : document.lines[index]? = some line) (other : ¬Assigns (maskedCode line))
    (scans : Scans (maskedCode line) 0 numbers) (mem : number ∈ numbers) (signs : Signed number taken)
    (plain : Plain (numberText taken) negative magnitude) (listed : ListItem list.toList item)
    (itemPlain : Plain item itemNegative itemMagnitude)
    (same : signed itemNegative itemMagnitude = signed negative magnitude) :
    (∃ finding ∈ Rule.check rule document, finding.range.stop = ⟨index, number.stop⟩) ↔
      magnitude = 0 ∧
        (∀ item, ListItem list.toList item → Double.ofText? item ≠ some (.finite ⟨negative, 0⟩)) ∧
        ¬(rule.allowIndexes = true ∧ Enclosed taken) := by
  obtain ⟨_, _, _, read, _⟩ := (runConfigure_eq_ok_iff stated).mp accepted
  simp only [reported_iff there other scans mem signs, exists_and_left, exists_eq, and_true]
  rw [Allows, not_or, authorizes_iff read plain]
  obtain ⟨rfl, sameSign⟩ := eq_of_signed_eq plain.nonneg itemPlain.nonneg same
  -- Only a zero may differ in its sign from the item that equals it, so that another item has to be looked for.
  by_cases zero : itemMagnitude = 0
  · have value : Double.rounded negative 0 = .finite ⟨negative, 0⟩ := by
      rw [Double.rounded, Format.round_zero]
    rw [zero, value]
    simp only [not_exists, not_and, true_and, ne_eq]
  · have authorized : ∃ item, ListItem list.toList item ∧
        Double.ofText? item = some (.rounded negative itemMagnitude) :=
      ⟨item, listed, sameSign zero ▸ itemPlain.ofText?_eq⟩
    exact iff_of_false (fun magic => magic.1 authorized) (fun isZero => zero isZero.1)

/-- A number that the list holds with other zeros and with white space around it. -/
theorem equal_number_reported_iff_zeros :
    let list := "1, 07.5 "
    let parameters : Parameters := [(authorizedKey, .string list)]
    let rule : MagicNumber := ⟨[.finite ⟨false, 1⟩, .finite ⟨false, 15 / 2⟩], true⟩
    let line := "Часть = Доля * 7.50;".toList
    let document : Document := ⟨⟨"m.bsl"⟩, .bsl, line⟩
    let number : Span := ⟨" * ялоД = ьтсаЧ".toList, "7.50".toList, [';']⟩
    Dictionary.get? parameters authorizedKey = some (.string list) ∧
      Rule.runConfigure parameters standard = (.ok (), rule) ∧ document.lines[0]? = some line ∧
      ¬Assigns (maskedCode line) ∧ Scans (maskedCode line) 0 [number] ∧ Signed number number ∧
      Plain (numberText number) false (15 / 2) ∧ ListItem list.toList "07.5".toList ∧
      Plain "07.5".toList false (15 / 2) ∧
      ((∃ finding ∈ Rule.check rule document, finding.range.stop = ⟨0, number.stop⟩) ↔
        (15 / 2 : ℚ) = 0 ∧
          (∀ item, ListItem list.toList item → Double.ofText? item ≠ some (.finite ⟨false, 0⟩)) ∧
          ¬(rule.allowIndexes = true ∧ Enclosed number)) := by
  intro list parameters rule line document number
  have stated : Dictionary.get? parameters authorizedKey = some (.string list) := by decide
  have accepted : Rule.runConfigure parameters standard = (.ok (), rule) :=
    (runConfigure_eq_ok_iff stated).mpr ⟨rfl, none, rfl, by decide +kernel, rfl⟩
  have there : document.lines[0]? = some line := by decide
  have other : ¬Assigns (maskedCode line) := isAssignment_iff.not.mp (by decide +kernel)
  have scans : Scans (maskedCode line) 0 [number] := scans_iff.mpr (by decide +kernel)
  have signs : Signed number number := signed_iff.mpr (by decide +kernel)
  have whole : AsciiDigits ['7'] ∧ natural ['7'] = 7 := by decide
  have zeroWhole : AsciiDigits ['0', '7'] ∧ natural ['0', '7'] = 7 := by decide
  have tenths : AsciiDigits ['5'] ∧ natural ['5'] = 5 := by decide
  have hundredths : AsciiDigits ['5', '0'] ∧ natural ['5', '0'] = 50 := by decide
  have plain : Plain (numberText number) false (15 / 2) := by
    have written : numberText number = ['7'] ++ '.' :: ['5', '0'] := by decide +kernel
    rw [written]
    convert Plain.unsigned (.fraction whole.1 hundredths.1) using 1
    norm_num [whole.2, hundredths.2]
  have itemPlain : Plain "07.5".toList false (15 / 2) := by
    have written : "07.5".toList = ['0', '7'] ++ '.' :: ['5'] := by decide +kernel
    rw [written]
    convert Plain.unsigned (.fraction zeroWhole.1 tenths.1) using 1
    norm_num [zeroWhole.2, tenths.2]
  have listed : ListItem list.toList "07.5".toList := mem_listItems_iff.mp (by decide +kernel)
  exact ⟨stated, accepted, there, other, scans, signs, plain, listed, itemPlain,
    equal_number_reported_iff stated accepted there other scans (List.mem_singleton_self number) signs plain listed
      itemPlain rfl⟩

/-- Zero with a minus is reported although zero is on the list, and the two are the same number. -/
theorem negative_zero_reported :
    let list := "0"
    let parameters : Parameters := [(authorizedKey, .string list)]
    let rule : MagicNumber := ⟨[.finite ⟨false, 0⟩], true⟩
    let line := "Если Остаток > -0 Тогда".toList
    let document : Document := ⟨⟨"m.bsl"⟩, .bsl, line⟩
    let number : Span := ⟨"- > котатсО илсЕ".toList, ['0'], " Тогда".toList⟩
    let taken := number.withMinus [] " > котатсО илсЕ".toList
    Rule.runConfigure parameters standard = (.ok (), rule) ∧ ¬Assigns (maskedCode line) ∧
      Scans (maskedCode line) 0 [number] ∧ Signed number taken ∧ Plain (numberText taken) true 0 ∧
      ListItem list.toList ['0'] ∧ Plain ['0'] false 0 ∧ signed false 0 = signed true 0 ∧
      Rule.check rule document = [⟨.onLine 0 15 17, ["-0"]⟩] := by
  intro list parameters rule line document number taken
  have stated : Dictionary.get? parameters authorizedKey = some (.string list) := by decide
  have accepted : Rule.runConfigure parameters standard = (.ok (), rule) :=
    (runConfigure_eq_ok_iff stated).mpr ⟨rfl, none, rfl, by decide +kernel, rfl⟩
  have digit : AsciiDigits ['0'] ∧ natural ['0'] = 0 := by decide
  have unsigned : Unsigned ['0'] 0 := by
    convert Unsigned.whole digit.1
    rw [digit.2, Nat.cast_zero]
  have plain : Plain (numberText taken) true 0 := by
    have written : numberText taken = ['-', '0'] := by decide +kernel
    rw [written]
    exact .minus unsigned
  exact ⟨accepted, isAssignment_iff.not.mp (by decide +kernel), scans_iff.mpr (by decide +kernel),
    signed_iff.mpr (by decide +kernel), plain, mem_listItems_iff.mp (by decide +kernel), .unsigned unsigned,
    by simp [signed], by decide +kernel⟩

end MagicNumber

end BslLint
