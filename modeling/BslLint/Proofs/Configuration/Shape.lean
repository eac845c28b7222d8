import BslLint.Proofs.Configuration.Reading
import BslLint.Proofs.Json.Meaning

/-! Which forms are configurations, and what they say. The shapes are described part by part, apart from the reader,
which is then shown to accept just these. -/

set_option autoImplicit false

namespace BslLint

theorem exists_forall₂ {Item Value : Type} {related : Item → Value → Prop} {items : List Item}
    (each : ∀ item ∈ items, ∃ value, related item value) : ∃ values, List.Forall₂ related items values := by
  induction items with
  | nil => exact ⟨[], .nil⟩
  | cons item rest ih =>
    obtain ⟨value, first⟩ := each item List.mem_cons_self
    obtain ⟨values, others⟩ := ih fun other member => each other (List.mem_cons_of_mem item member)
    exact ⟨value :: values, .cons first others⟩

namespace JsonForm

-- A key of an object that stands there at most once, with its value.
def Given (fields : List (Option String × JsonForm)) (key : String) (part : Option JsonForm) : Prop :=
  fields.filter (fun field => field.1 = some key) = (part.map fun form => (some key, form)).toList

def last? : JsonForm → String → Option JsonForm
  | .object fields, key => lastGiven? fields (some key)
  | _, _ => none

theorem single?_eq_some_iff {decoded : List (String × JsonForm)} {key : String} {part : Option JsonForm} :
    single? decoded key = some part ↔ Given (decoded.map fun field => (some field.1, field.2)) key part := by
  have kept : (decoded.map fun field => (some field.1, field.2)).filter (fun field => field.1 = some key) =
      (decoded.filter fun field => field.1 == key).map fun field => (some field.1, field.2) := by
    rw [List.filter_map]
    congr 2
    funext field
    simp [Bool.beq_eq_decide_eq]
  have keyed : ∀ field ∈ decoded.filter fun field => field.1 == key, field.1 = key :=
    fun field member => by simpa using List.of_mem_filter member
  rw [Given, kept, single?]
  generalize decoded.filter (fun field => field.1 == key) = found at keyed
  match found with
  | [] => cases part <;> simp
  | [field] =>
    have same := keyed field List.mem_cons_self
    cases part <;> simp [same, Prod.ext_iff]
  | _ :: _ :: _ => cases part <;> simp

theorem mem_of_given {fields : List (Option String × JsonForm)} {key : String} {form : JsonForm}
    (given : Given fields key (some form)) : (some key, form) ∈ fields := by
  have member : (some key, form) ∈ fields.filter fun field => field.1 = some key := by
    rw [given]
    exact List.mem_singleton.mpr rfl
  exact List.mem_of_mem_filter member

end JsonForm

theorem exists_partValue? {Form Value : Type} {part : Option Form} {absent : Value} {read : Form → Option Value} :
    (∀ form ∈ part, ∃ value, read form = some value) ↔ ∃ value, partValue? part absent read = some value := by
  cases part <;> simp [partValue?]

theorem JsonForm.exists_decoded {fields : List (Option String × JsonForm)}
    (keyed : ∀ field ∈ fields, field.1 ≠ none) :
    ∃ decoded : List (String × JsonForm), fields = decoded.map fun field => (some field.1, field.2) := by
  have each : ∀ field ∈ fields, ∃ entry : String × JsonForm, field.1 = some entry.1 ∧ some field.2 = some entry.2 := by
    intro field member
    obtain ⟨key, named⟩ := Option.ne_none_iff_exists'.mp (keyed field member)
    exact ⟨(key, field.2), named, rfl⟩
  obtain ⟨entries, read⟩ := exists_forall₂ each
  obtain ⟨decoded, same, _⟩ := Entries.exists_decoded read
  exact ⟨decoded, same⟩

inductive Setting.Stands : JsonForm → Setting → Prop where
  | toggle {enabled : Bool} : Stands (.bool enabled) (.toggle enabled)
  | parameters {fields : List (Option String × JsonForm)} {values : Parameters} :
      JsonForm.Means (.object fields) (.object values) → Stands (.object fields) (.parameters values)

namespace JsonForm

def IsSetting (form : JsonForm) : Prop :=
  (∃ enabled, form = .bool enabled) ∨ ∃ fields, form = .object fields

variable {form : JsonForm} {bound : Nat}

theorem isSetting_of_stands {setting : Setting} (stands : Setting.Stands form setting) : form.IsSetting := by
  cases stands with
  | toggle => exact .inl ⟨_, rfl⟩
  | parameters _ => exact .inr ⟨_, rfl⟩

theorem stands_of_ofForm? {setting : Setting} (read : Setting.ofForm? bound form = some setting) :
    Setting.Stands form setting := by
  rw [Setting.ofForm?, Option.bind_eq_some_iff] at read
  obtain ⟨value, valued, read⟩ := read
  cases means_of_value? valued with
  | bool =>
    cases read
    exact .toggle
  | object ascending same =>
    cases read
    exact .parameters (.object ascending same)
  | _ => cases read

theorem isSetting_iff (denotes : form.Denotes) (shallow : form.depth ≤ bound) :
    form.IsSetting ↔ ∃ setting, Setting.ofForm? bound form = some setting := by
  obtain ⟨value, valued⟩ := Option.isSome_iff_exists.mp ((isSome_value?_iff bound form).mpr ⟨denotes, shallow⟩)
  rw [Setting.ofForm?, valued, Option.bind_some]
  cases means_of_value? valued <;> simp [IsSetting, Setting.ofJson?]

end JsonForm

namespace Snapshot

open JsonForm (Given)

/-- The forms of languages: a name, or an object with the name as its only key. -/
inductive SpeaksLanguage : JsonForm → Language → Prop where
  | en : SpeaksLanguage (.string (some "en")) .en
  | ru : SpeaksLanguage (.string (some "ru")) .ru
  | enKey : SpeaksLanguage (.object [(some "en", .null)]) .en
  | ruKey : SpeaksLanguage (.object [(some "ru", .null)]) .ru

inductive NamesRoot : JsonForm → Option Path → Prop where
  | null : NamesRoot .null none
  | text {text : String} : NamesRoot (.string (some text)) (some ⟨text⟩)

/-- The language, the settings and the root of a form, each if it is there. -/
inductive HasParts : JsonForm → Option JsonForm → Option JsonForm → Option JsonForm → Prop where
  | object {fields : List (Option String × JsonForm)} {language settings root : Option JsonForm} :
      Given fields "diagnosticLanguage" language → Given fields "diagnostics" settings →
      Given fields "configurationRoot" root → HasParts (.object fields) language settings root
  | array {items : List JsonForm} : items.length ≤ 3 → HasParts (.array items) items[0]? items[1]? items[2]?

structure Accepts (form : JsonForm) (language settings root : Option JsonForm) : Prop where
  parts : HasParts form language settings root
  language : ∀ part ∈ language, ∃ value, SpeaksLanguage part value
  settings : ∀ part ∈ settings, ∃ fields, part = .object fields ∧ ∀ field ∈ fields, field.2.IsSetting
  root : ∀ part ∈ root, ∃ value, NamesRoot part value

/-- What a snapshot says where a form has these parts. -/
structure Says (language settings root : Option JsonForm) (snapshot : Snapshot) : Prop where
  defaultLanguage : language = none → snapshot.language = .ru
  language : ∀ part ∈ language, SpeaksLanguage part snapshot.language
  settings : ∀ code, Option.Rel Setting.Stands (settings.bind fun part => part.last? code) (snapshot.setting? code)
  noRoot : root = none → snapshot.configurationRoot = none
  root : ∀ part ∈ root, NamesRoot part snapshot.configurationRoot

theorem speaksLanguage_iff {form : JsonForm} {language : Language} :
    SpeaksLanguage form language ↔ form.choice?.bind Named.ofName? = some language := by
  constructor
  · intro speaks
    cases speaks <;> decide
  · intro read
    rw [Option.bind_eq_some_iff] at read
    obtain ⟨name, chosen, found⟩ := read
    have same : Named.name language = name := Named.name_of_ofName? found
    unfold JsonForm.choice? at chosen
    split at chosen
    · subst same chosen
      cases language
      · exact .en
      · exact .ru
    · subst same chosen
      cases language
      · exact .enKey
      · exact .ruKey
    · cases chosen

theorem namesRoot_iff {form : JsonForm} {root : Option Path} : NamesRoot form root ↔ rootOfForm? form = some root := by
  constructor
  · intro names
    cases names <;> rfl
  · intro read
    unfold rootOfForm? at read
    split at read
    · cases read
      exact .null
    · rw [Option.map_eq_some_iff] at read
      obtain ⟨text, rfl, rfl⟩ := read
      exact .text
    · cases read

theorem stands_of_settingsOfForm? {form : JsonForm} {settings : Dictionary Setting}
    (read : settingsOfForm? form = some settings) (code : String) :
    Option.Rel Setting.Stands (form.last? code) (Dictionary.get? settings code) := by
  cases form with
  | object fields =>
    obtain ⟨entries, all, rfl⟩ := settingsOfForm?_object.mp read
    rw [Dictionary.get?_ofList]
    exact lastGiven?_rel (all.imp fun field entry read => ⟨read.1, JsonForm.stands_of_ofForm? read.2⟩) code
  | _ => cases read

theorem isSettings_iff {form : JsonForm} (denotes : form.Denotes) (shallow : form.depth ≤ settingDepth + 1) :
    (∃ fields, form = .object fields ∧ ∀ field ∈ fields, field.2.IsSetting) ↔
      ∃ settings, settingsOfForm? form = some settings := by
  constructor
  · rintro ⟨fields, rfl, all⟩
    rw [JsonForm.Denotes, JsonForm.fieldsDenote_iff] at denotes
    rw [JsonForm.depth, Nat.add_le_add_iff_right, JsonForm.fieldsDepth_le_iff] at shallow
    have each : ∀ field ∈ fields, ∃ entry : String × Setting,
        field.1 = some entry.1 ∧ Setting.ofForm? settingDepth field.2 = some entry.2 := by
      intro field member
      obtain ⟨keyed, valued⟩ := denotes field member
      obtain ⟨code, named⟩ := Option.ne_none_iff_exists'.mp keyed
      obtain ⟨setting, read⟩ := (JsonForm.isSetting_iff valued (shallow field member)).mp (all field member)
      exact ⟨(code, setting), named, read⟩
    obtain ⟨entries, read⟩ := exists_forall₂ each
    exact ⟨_, settingsOfForm?_object.mpr ⟨entries, read, rfl⟩⟩
  · rintro ⟨settings, read⟩
    cases form with
    | object fields =>
      obtain ⟨entries, all, _⟩ := settingsOfForm?_object.mp read
      have shaped : List.Forall₂ (fun field entry => field.2.IsSetting ∧ field.1 = some entry.1) fields entries :=
        all.imp fun field entry read => ⟨JsonForm.isSetting_of_stands (JsonForm.stands_of_ofForm? read.2), read.1⟩
      exact ⟨fields, rfl, ((List.forall₂_and_left fields entries).mp shaped).1⟩
    | _ => cases read

theorem ofForm?_of_hasParts {form : JsonForm} (denotes : form.Denotes) {language settings root : Option JsonForm}
    (parts : HasParts form language settings root) : ofForm? form = ofParts? language settings root := by
  cases parts with
  | @object fields language settings root languageGiven settingsGiven rootGiven =>
    rw [JsonForm.Denotes, JsonForm.fieldsDenote_iff] at denotes
    obtain ⟨decoded, rfl⟩ := JsonForm.exists_decoded fun field member => (denotes field member).1
    rw [ofForm?]
    simp only [JsonForm.decodedFields?_eq_some_iff.mpr rfl, bind, Option.bind_some, languageKey, settingsKey, rootKey,
      JsonForm.single?_eq_some_iff.mpr languageGiven, JsonForm.single?_eq_some_iff.mpr settingsGiven,
      JsonForm.single?_eq_some_iff.mpr rootGiven]
  | array short => exact if_pos short

theorem exists_hasParts {form : JsonForm} {snapshot : Snapshot} (read : ofForm? form = some snapshot) :
    ∃ language settings root, HasParts form language settings root := by
  cases form with
  | object fields =>
    simp only [ofForm?, bind, Option.bind_eq_some_iff, JsonForm.decodedFields?_eq_some_iff,
      JsonForm.single?_eq_some_iff] at read
    obtain ⟨decoded, rfl, language, languageGiven, settings, settingsGiven, root, rootGiven, _⟩ := read
    exact ⟨language, settings, root, .object languageGiven settingsGiven rootGiven⟩
  | array items =>
    rw [ofForm?] at read
    split at read
    · exact ⟨_, _, _, .array ‹_›⟩
    · cases read
  | _ => cases read

theorem denotes_settings {form : JsonForm} {language settings root : Option JsonForm}
    (parts : HasParts form language settings root) (denotes : form.Denotes) {bound : Nat}
    (shallow : form.depth ≤ bound + 1) : ∀ part ∈ settings, part.Denotes ∧ part.depth ≤ bound := by
  intro part held
  cases parts with
  | object _ settingsGiven _ =>
    rw [Option.mem_def.mp held] at settingsGiven
    have member := JsonForm.mem_of_given settingsGiven
    rw [JsonForm.Denotes, JsonForm.fieldsDenote_iff] at denotes
    rw [JsonForm.depth, Nat.add_le_add_iff_right, JsonForm.fieldsDepth_le_iff] at shallow
    exact ⟨(denotes _ member).2, shallow _ member⟩
  | @array items _ =>
    have member := List.mem_of_getElem? held
    rw [JsonForm.Denotes, JsonForm.itemsDenote_iff] at denotes
    rw [JsonForm.depth, Nat.add_le_add_iff_right, JsonForm.itemsDepth_le_iff] at shallow
    exact ⟨denotes _ member, shallow _ member⟩

theorem ofParts?_eq_some_iff {language settings root : Option JsonForm} {snapshot : Snapshot} :
    ofParts? language settings root = some snapshot ↔
      partValue? language .standard (fun form => form.choice?.bind Named.ofName?) = some snapshot.language ∧
      partValue? settings [] settingsOfForm? = some snapshot.settings ∧
      partValue? root none rootOfForm? = some snapshot.configurationRoot := by
  simp only [ofParts?, bind, Option.bind_eq_some_iff, pure, Option.some.injEq]
  constructor
  · rintro ⟨language, spoken, settings, set, root, rooted, rfl⟩
    exact ⟨spoken, set, rooted⟩
  · rintro ⟨spoken, set, rooted⟩
    exact ⟨_, spoken, _, set, _, rooted, rfl⟩

/-- With all its texts and numbers in order, a form is read if it has the form of a configuration. -/
theorem accepts_iff {form : JsonForm} (denotes : form.Denotes) (shallow : form.depth ≤ Json.depthLimit) :
    (∃ language settings root, Accepts form language settings root) ↔ ∃ snapshot, ofForm? form = some snapshot := by
  constructor
  · rintro ⟨language, settings, root, accepts⟩
    have spoken : ∀ part ∈ language, ∃ value : Language, part.choice?.bind Named.ofName? = some value := by
      simpa only [speaksLanguage_iff] using accepts.language
    have rooted : ∀ part ∈ root, ∃ value, rootOfForm? part = some value := by
      simpa only [namesRoot_iff] using accepts.root
    have set : ∀ part ∈ settings, ∃ value, settingsOfForm? part = some value := by
      intro part member
      obtain ⟨valued, bounded⟩ := denotes_settings accepts.parts denotes shallow part member
      exact (isSettings_iff valued bounded).mp (accepts.settings part member)
    obtain ⟨chosen, spoken⟩ := exists_partValue?.mp spoken
    obtain ⟨held, set⟩ := exists_partValue?.mp set
    obtain ⟨path, rooted⟩ := exists_partValue?.mp rooted
    refine ⟨⟨chosen, held, path⟩, ?_⟩
    rw [ofForm?_of_hasParts denotes accepts.parts, ofParts?_eq_some_iff]
    exact ⟨spoken, set, rooted⟩
  · rintro ⟨snapshot, read⟩
    obtain ⟨language, settings, root, parts⟩ := exists_hasParts read
    rw [ofForm?_of_hasParts denotes parts, ofParts?_eq_some_iff] at read
    obtain ⟨spoken, set, rooted⟩ := read
    refine ⟨language, settings, root, parts, ?_, ?_, ?_⟩
    · simpa only [speaksLanguage_iff] using exists_partValue?.mpr ⟨_, spoken⟩
    · intro part member
      obtain ⟨valued, bounded⟩ := denotes_settings parts denotes shallow part member
      exact (isSettings_iff valued bounded).mpr (exists_partValue?.mpr ⟨_, set⟩ part member)
    · simpa only [namesRoot_iff] using exists_partValue?.mpr ⟨_, rooted⟩

theorem says_of_ofForm? {form : JsonForm} (denotes : form.Denotes) {language settings root : Option JsonForm}
    (parts : HasParts form language settings root) {snapshot : Snapshot} (read : ofForm? form = some snapshot) :
    Says language settings root snapshot := by
  rw [ofForm?_of_hasParts denotes parts, ofParts?_eq_some_iff] at read
  obtain ⟨spoken, set, rooted⟩ := read
  refine ⟨?_, ?_, fun code => ?_, ?_, ?_⟩
  · rintro rfl
    exact (Option.some.inj spoken).symm
  · rintro part ⟨⟩
    exact speaksLanguage_iff.mpr spoken
  · cases settings with
    | none =>
      rw [setting?, ← Option.some.inj set]
      exact .none
    | some part => exact stands_of_settingsOfForm? set code
  · rintro rfl
    exact (Option.some.inj rooted).symm
  · rintro part ⟨⟩
    exact namesRoot_iff.mpr rooted

end Snapshot

end BslLint
