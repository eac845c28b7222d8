import BslLint.Proofs.Compatibility.Spelling
import BslLint.Proofs.Json.Reading
import BslLint.Proofs.Json.Writing

/-! Compatibility modes survive being displayed. The text of a mode spells it, and is the one among its spellings that
is displayed again when it has been read. -/

set_option autoImplicit false

namespace BslLint.CompatibilityMode

open Text

/-- A mode is spelled by its text: by its name if it is the unrestricted one, which its numbers would spell as well, and
by all three numbers otherwise. -/
theorem spells_chars (mode : CompatibilityMode) : Spells mode.chars mode := by
  unfold chars
  split
  · rename_i named
    obtain rfl : mode = unrestricted := by simpa [isUnrestricted] using named
    exact .unrestricted (eqIgnoringAsciiCase_iff.mp (by decide))
  · exact .dotted (.three (writesNatural_toDigits _) (writesNatural_toDigits _) (writesNatural_toDigits _))

theorem writes_text (mode : CompatibilityMode) : Writes mode.text.toList mode := by
  refine ⟨[], mode.chars, [], rfl, rfl, ?_, spells_chars mode⟩
  simp [text]

theorem parse_text (mode : CompatibilityMode) : parse mode.text = .ok mode :=
  parse_eq_ok_iff_writes.mpr (writes_text mode)

theorem ofJson?_toJson (mode : CompatibilityMode) : ofJson? mode.toJson = some mode := by
  rw [ofJson?, toJson, Json.asString?, Option.bind_some, ofChars?_eq_some_iff, spells_trim_iff]
  exact writes_text mode

/-- Reads a mode that has been written as a value on its own. -/
def ofJsonText? (written : String) : Option CompatibilityMode :=
  (Json.ofText? written.toList).bind ofJson?

theorem ofJsonText?_compact (mode : CompatibilityMode) : ofJsonText? mode.toJson.compact = some mode := by
  have integral : mode.toJson.Integral := trivial
  rw [ofJsonText?, Json.ofText?, JsonForm.ofText?_eq_some_iff.mpr (JsonForm.padded_compact integral), Option.bind_some,
    toJson, JsonForm.ofJson, JsonForm.value?, Option.map_some, Option.bind_some, ← toJson, ofJson?_toJson]

theorem text_injective : Function.Injective text := by
  intro left right same
  have read := parse_text left
  rw [same, parse_text right] at read
  exact (Except.ok.inj read).symm

/-- A spelling that is displayed as it stands when it has been read. -/
def Canonical (written : String) : Prop :=
  (parse written).map text = .ok written

theorem canonical_iff {written : String} : Canonical written ↔ ∃ mode : CompatibilityMode, mode.text = written := by
  constructor
  · intro canonical
    unfold Canonical at canonical
    cases read : parse written with
    | error error => simp [read, Except.map] at canonical
    | ok mode => exact ⟨mode, by simpa [read, Except.map] using canonical⟩
  · rintro ⟨mode, rfl⟩
    rw [Canonical, parse_text]
    rfl

/-- Displaying and reading are inverse. A mode is read from its text, and from its text as a value, so that no two modes
share a text; and among the spellings of a mode its text is the one that is displayed as it stands. -/
theorem parse_text_inverse :
    (∀ mode : CompatibilityMode, parse mode.text = .ok mode ∧ ofJson? mode.toJson = some mode ∧
      ofJsonText? mode.toJson.compact = some mode) ∧
    Function.Injective text ∧
    ∀ (written : String) (mode : CompatibilityMode), parse written = .ok mode →
      Canonical mode.text ∧ (Canonical written ↔ mode.text = written) := by
  refine ⟨fun mode => ⟨parse_text mode, ofJson?_toJson mode, ofJsonText?_compact mode⟩, text_injective, ?_⟩
  intro written mode read
  refine ⟨canonical_iff.mpr ⟨mode, rfl⟩, ?_⟩
  rw [Canonical, read, Except.map, Except.ok.injEq]

/-- A spelling with white space, a sign and a zero in front of a number. -/
theorem parse_text_inverse_padded :
    parse " Version8_+03 " = .ok ⟨8, 3, 0⟩ ∧ Canonical "8.3.0" ∧ ¬Canonical " Version8_+03 " := by
  have read : parse " Version8_+03 " = .ok ⟨8, 3, 0⟩ := by decide +kernel
  have displayed : text ⟨8, 3, 0⟩ = "8.3.0" := by decide +kernel
  obtain ⟨canonical, same⟩ := parse_text_inverse.2.2 _ _ read
  rw [displayed] at canonical same
  exact ⟨read, canonical, fun other => absurd (same.mp other) (by decide)⟩

end BslLint.CompatibilityMode
