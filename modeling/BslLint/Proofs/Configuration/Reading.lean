import BslLint.Configuration.Reader
import BslLint.Proofs.Items
import BslLint.Proofs.Json.Meaning
import BslLint.Proofs.Json.Reading

/-! Reading of configurations: their parts, whole texts, and files. -/

set_option autoImplicit false

namespace BslLint

theorem JsonForm.decodedFields?_eq_some_iff {fields : List (Option String × JsonForm)}
    {decoded : List (String × JsonForm)} :
    decodedFields? fields = some decoded ↔ fields = decoded.map fun field => (some field.1, field.2) := by
  rw [decodedFields?, mapM_eq_some_iff]
  constructor
  · intro read
    induction read with
    | nil => rfl
    | cons found _ ih =>
      rw [Option.map_eq_some_iff] at found
      obtain ⟨key, same, rfl⟩ := found
      rw [ih, List.map_cons, ← same]
  · rintro rfl
    induction decoded with
    | nil => exact .nil
    | cons field rest ih => exact .cons rfl ih

theorem JsonForm.Entries.exists_decoded {Value : Type} {read : JsonForm → Option Value}
    {fields : List (Option String × JsonForm)} {entries : List (String × Value)} (all : Entries read fields entries) :
    ∃ decoded : List (String × JsonForm), fields = decoded.map (fun field => (some field.1, field.2)) ∧
      List.Forall₂ (fun field entry => field.1 = entry.1 ∧ read field.2 = some entry.2) decoded entries := by
  induction all with
  | nil => exact ⟨[], rfl, .nil⟩
  | @cons field entry _ _ first _ ih =>
    obtain ⟨decoded, rfl, others⟩ := ih
    refine ⟨(entry.1, field.2) :: decoded, ?_, .cons ⟨rfl, first.2⟩ others⟩
    rw [List.map_cons, ← first.1]

namespace Snapshot

theorem settingsOfForm?_object {fields : List (Option String × JsonForm)} {settings : Dictionary Setting} :
    settingsOfForm? (.object fields) = some settings ↔
      JsonForm.ReadAs (Setting.ofForm? settingDepth) fields settings := by
  simp only [JsonForm.ReadAs, settingsOfForm?, bind, Option.bind_eq_some_iff, pure, Option.some.injEq, mapM_eq_some_iff,
    JsonForm.decodedFields?_eq_some_iff]
  constructor
  · rintro ⟨decoded, rfl, entries, read, same⟩
    refine ⟨entries, List.forall₂_map_left_iff.mpr (read.imp fun field entry read => ?_), same⟩
    rw [Option.map_eq_some_iff] at read
    obtain ⟨setting, read, rfl⟩ := read
    exact ⟨rfl, read⟩
  · rintro ⟨entries, read, same⟩
    obtain ⟨decoded, rfl, each⟩ := JsonForm.Entries.exists_decoded read
    refine ⟨decoded, rfl, entries, each.imp fun field entry found => ?_, same⟩
    rw [found.2, found.1, Option.map_some]

theorem ofText?_of_padded {text : String} {form : JsonForm} (valid : form.Padded text.toList) :
    ofText? .json text = ofForm? form := by
  rw [ofText?, JsonForm.ofText?_eq_some_iff.mpr valid, Option.bind_some]

-- A text with the form of a snapshot is read as the snapshot.
theorem parse_eq_ok_iff {text : String} {form : JsonForm} (valid : form.Padded text.toList) {snapshot : Snapshot} :
    parse .json text = .ok snapshot ↔ ofForm? form = some snapshot := by
  unfold parse
  rw [ofText?_of_padded valid]
  cases ofForm? form <;> simp

theorem parse_congr {text otherText : String} {form other : JsonForm} (valid : form.Padded text.toList)
    (otherValid : other.Padded otherText.toList) (same : ofForm? form = ofForm? other) :
    parse .json text = parse .json otherText := by
  unfold parse
  rw [ofText?_of_padded valid, ofText?_of_padded otherValid, same]

/-- What a configuration file says: nothing where there is none, else what its format makes of the text. -/
inductive Loads (tree : FileTree) (path : Path) : Snapshot → Prop where
  | missing : tree.readText path = .error .notFound → Loads tree path .standard
  | parsed {text : String} {snapshot : Snapshot} : tree.readText path = .ok text →
      parse (.ofPath path) text = .ok snapshot → Loads tree path snapshot

theorem loads_iff {tree : FileTree} {path : Path} {snapshot : Snapshot} :
    Loads tree path snapshot ↔ load tree path = .ok snapshot := by
  unfold load
  constructor
  · intro loads
    cases loads with
    | missing absent => rw [absent]
    | parsed found read =>
      rw [found]
      exact read
  · intro loaded
    split at loaded
    · exact .parsed ‹_› loaded
    · cases loaded
      exact .missing ‹_›
    · cases loaded

end Snapshot

end BslLint
