import BslLint.Proofs.Configuration.Order
import BslLint.Proofs.Json.Range

/-! Which texts are configurations. A number just below the bound of the doubles may be refused, since its digits and
its power of ten are rounded apart from each other. -/

set_option autoImplicit false

namespace BslLint

namespace Snapshot

/-- A text whose strings and numbers all have a value is read if it has the form of a configuration, and of several
settings for a code the last one is taken. Other keys do not matter, and neither does the order of different keys.
Numbers have a value unless they are too near to the bound of the doubles, or beyond it. -/
theorem parse_accepts {text : String} {form : JsonForm} (valid : form.Padded text.toList) (denotes : form.Denotes)
    (shallow : form.depth ≤ Json.depthLimit) :
    ((∃ snapshot, parse .json text = .ok snapshot) ↔ ∃ language settings root, Accepts form language settings root) ∧
    (∀ snapshot language settings root, parse .json text = .ok snapshot → HasParts form language settings root →
      Says language settings root snapshot) ∧
    (∀ fields others (otherText : String), form = .object fields → (JsonForm.object others).Padded otherText.toList →
      (JsonForm.object others).Denotes → knownFields fields = knownFields others →
      parse .json text = parse .json otherText) ∧
    (∀ other (otherText : String), other.Padded otherText.toList → JsonForm.Reordered form other →
      parse .json text = parse .json otherText) ∧
    ∀ (numeral : JsonNumeral) (number : List Char), numeral.Written number →
      numeral.magnitude ≤ JsonNumeral.safeBound →
      (∀ digits, numeral.exponent = some (false, digits) → JsonNumeral.valueAfter 0 digits < 2 ^ 31) →
      numeral.value? ≠ none := by
  refine ⟨?_, ?_, ?_, ?_, ?_⟩
  · rw [accepts_iff denotes shallow]
    exact exists_congr fun snapshot => parse_eq_ok_iff valid
  · intro snapshot language settings root parsed parts
    exact says_of_ofForm? denotes parts ((parse_eq_ok_iff valid).mp parsed)
  · rintro fields others otherText rfl otherValid otherDenotes same
    exact parse_congr valid otherValid (ofForm?_of_knownFields denotes otherDenotes same)
  · intro other otherText otherValid reordered
    exact parse_congr valid otherValid (ofForm?_of_reordered reordered denotes)
  · intro numeral number written inRange moderate
    exact JsonNumeral.value?_ne_none written inRange moderate

/-- Repeated codes, an unknown key and a number with an exponent. -/
theorem parse_accepts_repeated :
    let settings : JsonForm := .object
      [(some "A", .bool true), (some "B", .object []), (some "A", .object [(some "n", .string (some "1"))])]
    let text := "\x7b\"x\":null,\"diagnostics\":\x7b\"A\":true,\"B\":\x7b\x7d,\"A\":\x7b\"n\":\"1\"\x7d\x7d\x7d"
    (∃ snapshot, parse .json text = .ok snapshot ∧ Says none (some settings) none snapshot) ∧
      parse .json text = parse .json
        "\x7b\"diagnostics\":\x7b\"A\":true,\"B\":\x7b\x7d,\"A\":\x7b\"n\":\"1\"\x7d\x7d\x7d" ∧
      parse .json text = parse .json
        "\x7b\"x\":null,\"diagnostics\":\x7b\"A\":true,\"A\":\x7b\"n\":\"1\"\x7d,\"B\":\x7b\x7d\x7d\x7d" ∧
      JsonNumeral.value? ⟨false, [2, 5], [], some (false, [1])⟩ ≠ none := by
  intro settings text
  have written (value : Json) (integral : value.Integral) {text : String} (same : text = value.compact) :
      (JsonForm.ofJson value).Padded text.toList := same ▸ JsonForm.padded_compact integral
  let held : List (String × Json) := [("A", .bool true), ("B", .object []), ("A", .object [("n", .string "1")])]
  let exchanged : List (String × Json) := [("A", .bool true), ("A", .object [("n", .string "1")]), ("B", .object [])]
  have valid := written (.object [("x", .null), ("diagnostics", .object held)])
    (by simp [held, Json.Integral, Json.IntegralFields]) (show text = _ by decide +kernel)
  have parts : HasParts (.object [(some "x", .null), (some "diagnostics", settings)]) none (some settings) none :=
    .object rfl rfl rfl
  have reordered : JsonForm.Reordered settings (JsonForm.ofJson (.object exchanged)) :=
    @JsonForm.Reordered.exchange [(some "A", .bool true)] [] _ _ (by decide)
  have numeral : JsonForm.readNumeral "25e1".toList = some (⟨false, [2, 5], [], some (false, [1])⟩, []) := by
    decide +kernel
  obtain ⟨accepted, said, unknown, ordered, number⟩ := parse_accepts valid
    (by simp [JsonForm.ofJson, JsonForm.ofFields, held, JsonForm.Denotes, JsonForm.FieldsDenote]) (by decide)
  refine ⟨?_, ?_, ?_, ?_⟩
  · have settled : ∀ part ∈ some settings, ∃ fields, part = .object fields ∧ ∀ field ∈ fields, field.2.IsSetting := by
      intro part given
      exact ⟨_, (Option.mem_some_iff.mp given).symm, by simp [JsonForm.IsSetting]⟩
    obtain ⟨snapshot, parsed⟩ := accepted.mpr ⟨none, some settings, none, parts, by simp, settled, by simp⟩
    exact ⟨snapshot, parsed, said snapshot none (some settings) none parsed parts⟩
  · exact unknown _ [(some "diagnostics", settings)] _ rfl
      (written (.object [("diagnostics", .object held)]) (by simp [held, Json.Integral, Json.IntegralFields])
        (by decide +kernel))
      (by simp [settings, JsonForm.Denotes, JsonForm.FieldsDenote]) rfl
  · exact ordered _ _ (written (.object [("x", .null), ("diagnostics", .object exchanged)])
      (by simp [exchanged, Json.Integral, Json.IntegralFields]) (by decide +kernel))
      (@JsonForm.Reordered.field [(some "x", .null)] [] (some "diagnostics") _ _ reordered)
  · obtain ⟨used, written, _⟩ := JsonForm.exists_written_of_readNumeral numeral
    have magnitude : JsonNumeral.magnitude ⟨false, [2, 5], [], some (false, [1])⟩ = (250 : Nat) := by
      norm_num [JsonNumeral.magnitude, JsonNumeral.valueAfter, JsonNumeral.power]
    have inRange := magnitude.trans_le (JsonNumeral.word_le_safeBound (by decide))
    exact number _ used written inRange (by simp [JsonNumeral.valueAfter])

end Snapshot

namespace JsonForm

theorem written_single (key : String) {form : JsonForm} {text : List Char} (written : Written form text) :
    Written (.object [(some key, form)]) ('{' :: (Json.quote key ++ ':' :: text ++ ['}'])) :=
  .fields (.last (keyWritten_quote key blank_nil) written.padded)

end JsonForm

namespace JsonNumeral

def nearBound : JsonNumeral :=
  ⟨false, [1, 7, 9, 7, 6, 9, 3, 1, 3, 4, 8, 6, 2, 3, 1, 5, 7, 0, 0], [], some (false, [2, 9, 0])⟩

theorem written_nearBound : nearBound.Written "1797693134862315700e290".toList := by
  have read : JsonForm.readNumeral "1797693134862315700e290".toList = some (nearBound, []) := by
    decide +kernel
  obtain ⟨used, written, same⟩ := JsonForm.exists_written_of_readNumeral read
  rwa [same, List.append_nil]

-- The number is not greater than the greatest double.
theorem magnitude_nearBound : nearBound.magnitude ≤ (2 ^ 53 - 1) * 2 ^ 971 := by
  have digits : valueAfter 0 (nearBound.integer ++ nearBound.fraction) = 1797693134862315700 := by decide
  have exponent : power nearBound.exponent - nearBound.fraction.length = (290 : Nat) := by decide
  have bound : 1797693134862315700 * 10 ^ 290 ≤ 9007199254740991 * 2 ^ 971 := by decide +kernel
  have bound : (1797693134862315700 : ℚ) * 10 ^ 290 ≤ 9007199254740991 * 2 ^ 971 := by exact_mod_cast bound
  have greatest : (2 : ℚ) ^ 53 - 1 = 9007199254740991 := by norm_num
  rw [magnitude, digits, exponent, zpow_natCast, Nat.cast_ofNat, greatest]
  exact bound

/-- The digits are rounded up, and their product with the power of ten is then too great. -/
theorem value?_nearBound : nearBound.value? = none := by
  have digits : accumulate 0 nearBound.integer = (1797693134862315700, []) := by decide
  have exponent : exponentValue? [2, 9, 0] = some 290 := by decide
  have count : (290 : Int).toNat = 290 := rfl
  have first : Number.binary64.round (1797693134862315700 : Rat) = some 1797693134862315776 := by decide +kernel
  have last : Number.binary64.round (1797693134862315776 * powerOfTen 290) = none := by decide +kernel
  have scaled : doubleOfParts false 1797693134862315700 290 = none := by
    rw [doubleOfParts, Nat.cast_ofNat, first]
    dsimp only
    rw [applyExponent, if_neg (by decide), if_pos (by decide), count, last, Option.map_none]
  rw [value?, digits]
  simpa [nearBound, exponent, accumulate] using scaled

end JsonNumeral

namespace Snapshot

/-- The text has the form of a configuration, and its number is no greater than the greatest double. -/
theorem parse_nearBound :
    let text := "\x7b\"diagnostics\":\x7b\"A\":\x7b\"n\":1797693134862315700e290\x7d\x7d\x7d"
    let form : JsonForm := .object [(some "diagnostics",
      .object [(some "A", .object [(some "n", .number JsonNumeral.nearBound.value?)])])]
    form.Padded text.toList ∧ form.depth ≤ Json.depthLimit ∧
      JsonNumeral.nearBound.Written "1797693134862315700e290".toList ∧
      JsonNumeral.nearBound.magnitude ≤ (2 ^ 53 - 1) * 2 ^ 971 ∧
      (∃ language settings root, Accepts form language settings root) ∧
      ∀ snapshot, parse .json text ≠ .ok snapshot := by
  intro text form
  have chars : text.toList = '{' :: (Json.quote "diagnostics" ++ ':' :: ('{' :: (Json.quote "A" ++ ':' ::
      ('{' :: (Json.quote "n" ++ ':' :: "1797693134862315700e290".toList ++ ['}'])) ++ ['}'])) ++ ['}']) := by
    decide +kernel
  have padded : form.Padded text.toList := by
    rw [chars]
    exact (JsonForm.written_single _ (JsonForm.written_single _ (JsonForm.written_single _
      (.number JsonNumeral.written_nearBound)))).padded
  refine ⟨padded, by decide, JsonNumeral.written_nearBound, JsonNumeral.magnitude_nearBound, ?_, ?_⟩
  · refine ⟨none, some (.object [(some "A", .object [(some "n", .number JsonNumeral.nearBound.value?)])]), none,
      .object rfl rfl rfl, by simp, ?_, by simp⟩
    simp [JsonForm.IsSetting]
  · intro snapshot parsed
    have read := (parse_eq_ok_iff padded).mp parsed
    have refused : ofForm? form = none := by
      dsimp only [form]
      rw [JsonNumeral.value?_nearBound]
      rfl
    rw [refused] at read
    cases read

end Snapshot

end BslLint
