import BslLint.Json.Writer
import BslLint.Proofs.Json.Literals
import BslLint.Proofs.Json.Meaning

/-! Written values. What the writer makes of a value, on one line or indented, is a text of the form of the value, and
the form has the value again. Doubles are left out, since their texts are rounded again when they are read. -/

set_option autoImplicit false

namespace BslLint

namespace JsonNumeral

/-- The number that is written by the digits of `lead` and the digits after them. -/
def valueAfter (lead : Nat) (digits : List Nat) : Nat :=
  digits.foldl (fun value digit => value * 10 + digit) lead

theorem valueAfter_append (lead : Nat) (front digits : List Nat) :
    valueAfter lead (front ++ digits) = valueAfter (valueAfter lead front) digits :=
  List.foldl_append

theorem le_valueAfter (lead : Nat) (digits : List Nat) : lead ≤ valueAfter lead digits := by
  induction digits generalizing lead with
  | nil => exact le_rfl
  | cons digit rest ih => exact le_trans (by omega) (ih (lead * 10 + digit))

-- No digit is dropped from a number that fits in a word.
theorem accumulate_of_lt {lead : Nat} {digits : List Nat} (fits : valueAfter lead digits < wordBound) :
    accumulate lead digits = (valueAfter lead digits, []) := by
  induction digits generalizing lead with
  | nil => rfl
  | cons digit rest ih =>
    rw [accumulate, if_pos (lt_of_le_of_lt (le_valueAfter _ rest) fits)]
    exact ih fits

theorem exists_digits (value : Nat) : ∃ digits, Nat.toDigits 10 value = digitChars digits ∧ IsDigits digits ∧
    (digits.head? = some 0 → digits = [0]) ∧ valueAfter 0 digits = value := by
  induction value using Nat.strongRecOn with
  | ind value ih =>
    by_cases single : value < 10
    · refine ⟨[value], Nat.toDigits_of_lt_base single, ⟨List.cons_ne_nil _ _, by simpa using single⟩, ?_, ?_⟩
      · simp
      · simp [valueAfter]
    · obtain ⟨digits, written, isDigits, lead, same⟩ := ih (value / 10) (by omega)
      refine ⟨digits ++ [value % 10], ?_, ⟨by simp, ?_⟩, ?_, ?_⟩
      · rw [Nat.toDigits_of_base_le (by decide) (not_lt.mp single), written, digitChars, digitChars, List.map_append]
        rfl
      · intro digit member
        rcases List.mem_append.mp member with front | last
        · exact isDigits.2 digit front
        · rw [List.mem_singleton.mp last]
          omega
      · intro zero
        rw [List.head?_append_of_ne_nil _ isDigits.1] at zero
        -- The number before the last digit would be zero.
        rw [lead zero] at same
        exact absurd same (by simp [valueAfter]; omega)
      · rw [valueAfter_append, same, valueAfter, List.foldl_cons, List.foldl_nil]
        omega

def InRange (value : Int) : Prop :=
  -0x8000000000000000 ≤ value ∧ value < 0x10000000000000000

theorem exists_numeral {value : Int} (inRange : InRange value) : ∃ numeral : JsonNumeral,
    numeral.Written (Json.numberText (.integer value)) ∧ numeral.value? = some (.integer value) := by
  obtain ⟨digits, written, isDigits, lead, same⟩ := exists_digits value.natAbs
  obtain ⟨lower, upper⟩ := inRange
  have fits : valueAfter 0 digits < wordBound := by
    rw [same, wordBound]
    omega
  have taken := accumulate_of_lt fits
  rw [same] at taken
  refine ⟨⟨decide (value < 0), digits, [], none⟩, ?_, ?_⟩
  · have parts := @Written.parts ⟨decide (value < 0), digits, [], none⟩ [] [] isDigits lead .none .none
    rw [Json.numberText, written]
    by_cases below : value < 0 <;>
      simpa only [below, decide_true, decide_false, Bool.false_eq_true, if_true, if_false, List.append_nil,
        List.singleton_append, List.nil_append] using parts
  · simp only [value?, taken, and_self, if_true]
    by_cases below : value < 0
    · simp only [below, decide_true, Bool.not_true, Bool.false_eq_true, if_false]
      rw [if_neg (by omega)]
      congr 2
      omega
    · simp only [below, decide_false, Bool.not_false, if_true]
      congr 2
      omega

end JsonNumeral

namespace Json

mutual

def Integral : Json → Prop
  | .null | .bool _ | .string _ => True
  | .number (.integer value) => JsonNumeral.InRange value
  | .number (.double _) => False
  | .array items => IntegralItems items
  | .object fields => IntegralFields fields

def IntegralItems : List Json → Prop
  | [] => True
  | item :: rest => Integral item ∧ IntegralItems rest

def IntegralFields : List (String × Json) → Prop
  | [] => True
  | (_, value) :: rest => Integral value ∧ IntegralFields rest

end

mutual

def Ordered : Json → Prop
  | .null | .bool _ | .number _ | .string _ => True
  | .array items => OrderedItems items
  | .object fields => Dictionary.Ascending fields ∧ OrderedFields fields

def OrderedItems : List Json → Prop
  | [] => True
  | item :: rest => Ordered item ∧ OrderedItems rest

def OrderedFields : List (String × Json) → Prop
  | [] => True
  | (_, value) :: rest => Ordered value ∧ OrderedFields rest

end

theorem integralFields_iff {fields : List (String × Json)} :
    IntegralFields fields ↔ ∀ field ∈ fields, field.2.Integral := by
  induction fields with
  | nil => simp [IntegralFields]
  | cons field rest ih =>
    obtain ⟨key, value⟩ := field
    simp [IntegralFields, ih]

end Json

namespace JsonForm

open Json (Integral IntegralItems IntegralFields OrderedItems OrderedFields)

mutual

def ofJson : Json → JsonForm
  | .null => .null
  | .bool value => .bool value
  | .number value => .number (some value)
  | .string value => .string (some value)
  | .array items => .array (ofItems items)
  | .object fields => .object (ofFields fields)

def ofItems : List Json → List JsonForm
  | [] => []
  | item :: rest => ofJson item :: ofItems rest

def ofFields : List (String × Json) → List (Option String × JsonForm)
  | [] => []
  | (key, value) :: rest => (some key, ofJson value) :: ofFields rest

end

mutual

theorem value?_ofJson {value : Json} (ordered : value.Ordered) {bound : Nat} (fits : (ofJson value).depth ≤ bound) :
    value? bound (ofJson value) = some value := by
  match value, bound with
  | .null, _ => rw [ofJson, value?]
  | .bool _, _ => rw [ofJson, value?]
  | .number _, _ => rw [ofJson, value?, Option.map_some]
  | .string _, _ => rw [ofJson, value?, Option.map_some]
  | .array items, 0 => cases fits
  | .array items, bound + 1 =>
    rw [ofJson, depth, Nat.add_le_add_iff_right] at fits
    rw [ofJson, value?, itemValues?_ofItems ordered fits, Option.map_some]
  | .object fields, 0 => cases fits
  | .object fields, bound + 1 =>
    rw [ofJson, depth, Nat.add_le_add_iff_right] at fits
    rw [ofJson, value?, fieldValues?_ofFields ordered.2 fits, Option.map_some,
      Dictionary.ofList_of_perm (.refl fields) ordered.1]

theorem itemValues?_ofItems {items : List Json} (ordered : OrderedItems items) {bound : Nat}
    (fits : itemsDepth (ofItems items) ≤ bound) : itemValues? bound (ofItems items) = some items := by
  match items with
  | [] => rfl
  | item :: rest =>
    rw [ofItems, itemsDepth, Nat.max_le] at fits
    rw [ofItems, itemValues?, value?_ofJson ordered.1 fits.1, itemValues?_ofItems ordered.2 fits.2]
    rfl

theorem fieldValues?_ofFields {fields : List (String × Json)} (ordered : OrderedFields fields) {bound : Nat}
    (fits : fieldsDepth (ofFields fields) ≤ bound) : fieldValues? bound (ofFields fields) = some fields := by
  match fields with
  | [] => rfl
  | (key, value) :: rest =>
    rw [ofFields, fieldsDepth, Nat.max_le] at fits
    rw [ofFields, fieldValues?, value?_ofJson ordered.1 fits.1, fieldValues?_ofFields ordered.2 fits.2]
    rfl

end

theorem hexValue?_hexDigit {value : Nat} (bounded : value < 16) : hexValue? (Json.hexDigit value) = some value := by
  have all : ∀ value < 16, hexValue? (Json.hexDigit value) = some value := by decide
  exact all value bounded

-- A code unit that is no half of a pair stands for its character.
theorem decodePieces_unit {value : Nat} (below : value < 0xD800) (rest : List Piece) :
    decodePieces (.unit value :: rest) = (decodePieces rest).map (Char.ofNat value :: ·) := by
  have noHigh : ¬(0xD800 ≤ value ∧ value < 0xDC00) := by omega
  have noLow : ¬(0xDC00 ≤ value ∧ value < 0xE000) := by omega
  have noHalf : ¬(0xD800 ≤ value ∧ value < 0xE000) := by omega
  by_cases paired : ∃ low others, rest = .unit low :: others
  · obtain ⟨low, others, rfl⟩ := paired
    rw [decodePieces, if_neg noHigh, if_neg noLow]
  · rw [decodePieces, if_neg noHalf]
    exact fun low others same => paired ⟨low, others, same⟩

theorem exists_piece (char : Char) : ∃ piece : Piece, piece.Written (Json.escapeChar char) ∧
    ∀ rest, decodePieces (piece :: rest) = (decodePieces rest).map (char :: ·) := by
  have itself (rest : List Piece) : decodePieces (.char char :: rest) = (decodePieces rest).map (char :: ·) := by
    rw [decodePieces]
  unfold Json.escapeChar
  split_ifs with quote escape backspace feed line carriage tab control
  · exact ⟨.char char, .escaped (by subst quote; decide), itself⟩
  · exact ⟨.char char, .escaped (by subst escape; decide), itself⟩
  · exact ⟨.char char, .escaped (by subst backspace; decide), itself⟩
  · exact ⟨.char char, .escaped (by subst feed; decide), itself⟩
  · exact ⟨.char char, .escaped (by subst line; decide), itself⟩
  · exact ⟨.char char, .escaped (by subst carriage; decide), itself⟩
  · exact ⟨.char char, .escaped (by subst tab; decide), itself⟩
  · have zero : hexValue? '0' = some 0 := by decide
    refine ⟨_, .unit zero zero (hexValue?_hexDigit (by omega)) (hexValue?_hexDigit (by omega)), fun rest => ?_⟩
    rw [decodePieces_unit (by omega)]
    have same : ((0 * 16 + 0) * 16 + char.toNat / 16) * 16 + char.toNat % 16 = char.toNat := by omega
    rw [same, Char.ofNat_toNat]
  · exact ⟨.char char, .plain (not_lt.mp control) quote escape, itself⟩

theorem exists_pieces (chars : List Char) : ∃ pieces, PiecesWritten pieces (chars.flatMap Json.escapeChar) ∧
    decodePieces pieces = some chars := by
  induction chars with
  | nil => exact ⟨[], .nil, by rw [decodePieces]⟩
  | cons char rest ih =>
    obtain ⟨pieces, written, decoded⟩ := ih
    obtain ⟨piece, first, decodes⟩ := exists_piece char
    refine ⟨piece :: pieces, ?_, ?_⟩
    · rw [List.flatMap_cons]
      exact .cons first written
    · rw [decodes, decoded, Option.map_some]

theorem exists_pieces_of_text (text : String) : ∃ pieces,
    PiecesWritten pieces (text.toList.flatMap Json.escapeChar) ∧ textOf? pieces = some text := by
  obtain ⟨pieces, written, decoded⟩ := exists_pieces text.toList
  refine ⟨pieces, written, ?_⟩
  rw [textOf?, decoded, Option.map_some, String.ofList_toList]

theorem written_quote (text : String) : Written (.string (some text)) (Json.quote text) := by
  obtain ⟨pieces, written, same⟩ := exists_pieces_of_text text
  rw [← same]
  exact .string written

theorem keyWritten_quote (key : String) {before : List Char} (blank : Blank before) :
    KeyWritten (some key) (before ++ Json.quote key) := by
  obtain ⟨pieces, written, same⟩ := exists_pieces_of_text key
  rw [← same]
  exact .quoted blank written blank_nil

theorem written_number {number : JsonNumber} (integral : (Json.number number).Integral) :
    Written (.number (some number)) (Json.numberText number) := by
  cases number with
  | integer value =>
    obtain ⟨numeral, written, same⟩ := JsonNumeral.exists_numeral integral
    rw [← same]
    exact .number written
  | double _ => cases integral

theorem Written.padded {form : JsonForm} {text : List Char} (written : Written form text) : Padded form text := by
  simpa only [List.nil_append, List.append_nil] using
    @Padded.blanks form [] text [] blank_nil written blank_nil

mutual

theorem written_compactChars {value : Json} (integral : value.Integral) :
    Written (ofJson value) (Json.compactChars value) := by
  match value with
  | .null => exact .null
  | .bool true => exact .truth
  | .bool false => exact .falsehood
  | .number _ => exact written_number integral
  | .string _ => exact written_quote _
  | .array [] => exact .noItems blank_nil
  | .array (item :: rest) => exact .items (itemsWritten_compactItems integral (List.cons_ne_nil item rest))
  | .object [] => exact .noFields blank_nil
  | .object (field :: rest) => exact .fields (fieldsWritten_compactFields integral (List.cons_ne_nil field rest))

theorem itemsWritten_compactItems {items : List Json} (integral : IntegralItems items) (given : items ≠ []) :
    ItemsWritten (ofItems items) (Json.compactItems items) := by
  match items with
  | [] => exact absurd rfl given
  | [item] => exact .last (written_compactChars integral.1).padded
  | item :: other :: rest =>
    exact .more (written_compactChars integral.1).padded
      (itemsWritten_compactItems integral.2 (List.cons_ne_nil other rest))

theorem fieldsWritten_compactFields {fields : List (String × Json)} (integral : IntegralFields fields)
    (given : fields ≠ []) : FieldsWritten (ofFields fields) (Json.compactFields fields) := by
  have name (key : String) : KeyWritten (some key) (Json.quote key) := keyWritten_quote key blank_nil
  match fields with
  | [] => exact absurd rfl given
  | [(key, value)] => exact .last (name key) (written_compactChars integral.1).padded
  | (key, value) :: other :: rest =>
    exact .more (name key) (written_compactChars integral.1).padded
      (fieldsWritten_compactFields integral.2 (List.cons_ne_nil other rest))

end

theorem padded_compact {value : Json} (integral : value.Integral) : (ofJson value).Padded value.compact.toList := by
  rw [Json.compact, String.toList_ofList]
  exact (written_compactChars integral).padded

theorem blank_lineStart (level : Nat) : Blank (Json.lineStart level) := by
  intro char member
  rcases List.mem_cons.mp member with rfl | space
  · decide
  · rw [List.eq_of_mem_replicate space]
    decide

theorem blank_space : Blank [' '] := by
  simp [Blank]

mutual

theorem written_prettyChars (level : Nat) {value : Json} (integral : value.Integral) :
    Written (ofJson value) (Json.prettyChars level value) := by
  match value with
  | .null => exact .null
  | .bool true => exact .truth
  | .bool false => exact .falsehood
  | .number _ => exact written_number integral
  | .string _ => exact written_quote _
  | .array [] => exact .noItems blank_nil
  | .array (item :: rest) =>
    exact .items (itemsWritten_prettyItems (level + 1) integral (List.cons_ne_nil item rest) (blank_lineStart level))
  | .object [] => exact .noFields blank_nil
  | .object (field :: rest) =>
    exact .fields
      (fieldsWritten_prettyFields (level + 1) integral (List.cons_ne_nil field rest) (blank_lineStart level))

theorem itemsWritten_prettyItems (level : Nat) {items : List Json} (integral : IntegralItems items) (given : items ≠ [])
    {after : List Char} (blank : Blank after) :
    ItemsWritten (ofItems items) (Json.prettyItems level items ++ after) := by
  match items with
  | [] => exact absurd rfl given
  | [item] =>
    rw [Json.prettyItems, List.append_assoc]
    exact .last (.blanks (blank_lineStart level) (written_prettyChars level integral.1) blank)
  | item :: other :: rest =>
    have written := written_prettyChars level integral.1
    have first := @Padded.blanks (ofJson item) _ _ [] (blank_lineStart level) written blank_nil
    have others := ItemsWritten.more first
      (itemsWritten_prettyItems level integral.2 (List.cons_ne_nil other rest) blank)
    simpa only [ofItems, Json.prettyItems, List.append_assoc, List.cons_append, List.append_nil] using others

theorem fieldsWritten_prettyFields (level : Nat) {fields : List (String × Json)} (integral : IntegralFields fields)
    (given : fields ≠ []) {after : List Char} (blank : Blank after) :
    FieldsWritten (ofFields fields) (Json.prettyFields level fields ++ after) := by
  have name (key : String) := keyWritten_quote key (blank_lineStart level)
  match fields with
  | [] => exact absurd rfl given
  | [(key, value)] =>
    have last := FieldsWritten.last (name key)
      (.blanks blank_space (written_prettyChars level integral.1) blank)
    simpa only [ofFields, Json.prettyFields, List.append_assoc, List.cons_append, List.nil_append] using last
  | (key, value) :: other :: rest =>
    have first := @Padded.blanks (ofJson value) _ _ [] blank_space (written_prettyChars level integral.1) blank_nil
    have others := FieldsWritten.more (name key) first
      (fieldsWritten_prettyFields level integral.2 (List.cons_ne_nil other rest) blank)
    simpa only [ofFields, Json.prettyFields, List.append_assoc, List.cons_append, List.nil_append,
      List.append_nil] using others

end

theorem padded_pretty {value : Json} (integral : value.Integral) : (ofJson value).Padded value.pretty.toList := by
  rw [Json.pretty, String.toList_ofList]
  exact (written_prettyChars 0 integral).padded

end JsonForm

end BslLint
