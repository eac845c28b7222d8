import BslLint.Proofs.Configuration.Reading
import BslLint.Proofs.Json.Writing

/-! Snapshots survive writing. Their settings may be listed in any order, and the text may be of one line or many. -/

set_option autoImplicit false

namespace BslLint

open JsonForm (ofJson ofFields)

theorem JsonForm.ofFields_eq_map (fields : List (String × Json)) :
    ofFields fields = fields.map fun field => (some field.1, ofJson field.2) := by
  induction fields with
  | nil => rfl
  | cons field rest ih =>
    obtain ⟨key, value⟩ := field
    rw [ofFields, ih, List.map_cons]

theorem JsonForm.decodedFields?_ofFields (fields : List (String × Json)) :
    decodedFields? (ofFields fields) = some (fields.map fun field => (field.1, ofJson field.2)) := by
  rw [decodedFields?_eq_some_iff, ofFields_eq_map, List.map_map]
  rfl

theorem Setting.ofForm?_toJson {setting : Setting} (ordered : setting.toJson.Ordered) {bound : Nat}
    (shallow : (ofJson setting.toJson).depth ≤ bound) : ofForm? bound (ofJson setting.toJson) = some setting := by
  rw [ofForm?, JsonForm.value?_ofJson ordered shallow, Option.bind_some, ofJson?_toJson]

namespace Snapshot

/-- No rule has two settings, and no object of parameters has two values for a key. -/
structure WellFormed (snapshot : Snapshot) : Prop where
  ascending : snapshot.settings.Ascending
  ordered : ∀ entry ∈ snapshot.settings, entry.2.toJson.Ordered

-- The snapshot with its settings in another order.
def listing (snapshot : Snapshot) (listed : List (String × Setting)) : Snapshot :=
  { snapshot with settings := listed }

theorem settingsOfForm?_toJson {settings : Dictionary Setting} (ascending : settings.Ascending)
    (ordered : ∀ entry ∈ settings, entry.2.toJson.Ordered)
    (shallow : ∀ entry ∈ settings, (ofJson entry.2.toJson).depth ≤ settingDepth)
    {listed : List (String × Setting)} (order : listed.Perm settings) :
    settingsOfForm? (ofJson (settingsToJson listed)) = some settings := by
  rw [settingsToJson, ofJson, settingsOfForm?_object, JsonForm.ofFields_eq_map, List.map_map]
  refine ⟨listed, List.forall₂_map_left_iff.mpr (List.forall₂_same.mpr fun entry member => ⟨rfl, ?_⟩),
    Dictionary.ofList_of_perm order ascending⟩
  have held := order.mem_iff.mp member
  exact Setting.ofForm?_toJson (ordered entry held) (shallow entry held)

theorem depth_toJson_le_iff {snapshot : Snapshot} {bound : Nat} : (ofJson snapshot.toJson).depth ≤ bound + 2 ↔
    ∀ entry ∈ snapshot.settings, (ofJson entry.2.toJson).depth ≤ bound := by
  obtain ⟨language, settings, root⟩ := snapshot
  have others : JsonForm.fieldsDepth
      (ofFields (root.map fun root => (rootKey, Json.string root.text)).toList) = 0 := by
    cases root <;> rfl
  rw [toJson, ofJson, JsonForm.depth, List.cons_append, ofFields, JsonForm.fieldsDepth, List.cons_append, ofFields,
    JsonForm.fieldsDepth, List.nil_append, others, Named.toJson, ofJson, JsonForm.depth, Nat.max_zero, Nat.zero_max,
    Nat.add_le_add_iff_right, settingsToJson, ofJson, JsonForm.depth, Nat.add_le_add_iff_right,
    JsonForm.fieldsDepth_le_iff, JsonForm.ofFields_eq_map, List.map_map, List.forall_mem_map]
  rfl

theorem ofForm?_toJson {snapshot : Snapshot} (wellFormed : snapshot.WellFormed)
    (shallow : (ofJson snapshot.toJson).depth ≤ Json.depthLimit) {listed : List (String × Setting)}
    (order : listed.Perm snapshot.settings) : ofForm? (ofJson (snapshot.listing listed).toJson) = some snapshot := by
  have settings := settingsOfForm?_toJson wellFormed.ascending wellFormed.ordered
    (depth_toJson_le_iff.mp shallow) order
  obtain ⟨language, held, root⟩ := snapshot
  have named : (ofJson (Named.toJson language)).choice?.bind Named.ofName? = some language :=
    ofName?_name_language language
  rw [listing, toJson, ofJson, ofForm?]
  simp only [JsonForm.decodedFields?_ofFields, bind, Option.bind_some]
  cases root with
  | none =>
    simp [JsonForm.single?, languageKey, settingsKey, rootKey, ofParts?, partValue?, named, settings]
  | some path =>
    simp [JsonForm.single?, languageKey, settingsKey, rootKey, ofParts?, partValue?, named, settings, ofJson,
      rootOfForm?]

theorem parse_of_padded {snapshot : Snapshot} (wellFormed : snapshot.WellFormed)
    (shallow : (ofJson snapshot.toJson).depth ≤ Json.depthLimit) {listed : List (String × Setting)}
    (order : listed.Perm snapshot.settings) {text : String}
    (written : (ofJson (snapshot.listing listed).toJson).Padded text.toList) : parse .json text = .ok snapshot :=
  (parse_eq_ok_iff written).mpr (ofForm?_toJson wellFormed shallow order)

theorem integral_listing {snapshot : Snapshot} (integral : ∀ entry ∈ snapshot.settings, entry.2.toJson.Integral)
    {listed : List (String × Setting)} (order : listed.Perm snapshot.settings) :
    (snapshot.listing listed).toJson.Integral := by
  have settings : (settingsToJson listed).Integral := by
    rw [settingsToJson, Json.Integral, Json.integralFields_iff, List.forall_mem_map]
    exact fun entry member => integral entry (order.mem_iff.mp member)
  rw [toJson, Json.Integral, Json.integralFields_iff]
  intro field member
  rcases List.mem_append.mp member with front | root
  · rcases List.mem_pair.mp front with rfl | rfl
    · trivial
    · exact settings
  · rw [Option.mem_toList, Option.map_eq_some_iff] at root
    obtain ⟨path, _, rfl⟩ := root
    trivial

/-- Written on one line or many, with its settings in any order, a snapshot is read again. -/
theorem parse_toJson {snapshot : Snapshot} (wellFormed : snapshot.WellFormed)
    (integral : ∀ entry ∈ snapshot.settings, entry.2.toJson.Integral)
    (shallow : (ofJson snapshot.toJson).depth ≤ Json.depthLimit) {listed : List (String × Setting)}
    (order : listed.Perm snapshot.settings) :
    parse .json (snapshot.listing listed).toJson.compact = .ok snapshot ∧
      parse .json (snapshot.listing listed).toJson.pretty = .ok snapshot := by
  have whole := integral_listing integral order
  constructor
  · exact parse_of_padded wellFormed shallow order (JsonForm.padded_compact whole)
  · exact parse_of_padded wellFormed shallow order (JsonForm.padded_pretty whole)

theorem parse_toJson_nested :
    let snapshot : Snapshot := ⟨.en, [("A \"1\"\n", .parameters []), ("B", .toggle false), ("C", .parameters
      [("limits", .array [.ofInt (-0x8000000000000000), .null, .object [("ы", .ofNat 0xffffffffffffffff)]])])], none⟩
    parse .json (snapshot.listing snapshot.settings.reverse).toJson.compact = .ok snapshot ∧
      parse .json (snapshot.listing snapshot.settings.reverse).toJson.pretty = .ok snapshot := by
  refine parse_toJson ⟨by decide, ?_⟩ ?_ (by decide) (List.reverse_perm _)
  · simp [Setting.toJson, Json.Ordered, Json.OrderedFields, Json.OrderedItems, Dictionary.Ascending, Json.ofInt,
      Json.ofNat]
  · simp [Setting.toJson, Json.Integral, Json.IntegralFields, Json.IntegralItems, JsonNumeral.InRange, Json.ofInt,
      Json.ofNat]

end Snapshot

end BslLint
