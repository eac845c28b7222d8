import BslLint.Command.Output
import BslLint.Proofs.Json.Reading
import BslLint.Proofs.Json.Writing

/-! Reports survive writing: the text of a report is read as the same report. Keys are written in the order of the fields
and looked up by name, so their order does not matter. -/

set_option autoImplicit false

namespace BslLint

namespace JsonForm

def Reads {Value : Type} (read : Json → Option Value) (depth : Nat) (written : Json) (value : Value) : Prop :=
  (value? depth (ofJson written)).bind read = some value

section

variable {Value : Type} {read : Json → Option Value} {depth : Nat}

theorem reads_iff {written : Json} {value : Value} : Reads read depth written value ↔
    ∃ json, value? depth (ofJson written) = some json ∧ read json = some value :=
  Option.bind_eq_some_iff

-- What a structure is read from: one value for each name.
theorem structure?_ofList {pairs : List (String × Json)} (distinct : (pairs.map Prod.fst).Nodup) :
    Json.structure? (pairs.map Prod.fst) (.object (Dictionary.ofList pairs)) =
      some (pairs.map fun pair => some pair.2) := by
  rw [Json.structure?, List.map_map]
  congr 1
  apply List.map_congr_left
  intro pair member
  rw [Function.comp_apply, Dictionary.get?_ofList, lastGiven?_of_mem distinct member]

theorem entries_zip {fields : List (String × Json)} {values : List Json}
    (held : List.Forall₂ (fun field value => value? depth (ofJson field.2) = some value) fields values) :
    Entries (value? depth) (ofFields fields) ((fields.map Prod.fst).zip values) ∧
      ((fields.map Prod.fst).zip values).map Prod.fst = fields.map Prod.fst ∧
      ((fields.map Prod.fst).zip values).map Prod.snd = values := by
  induction held with
  | nil => exact ⟨.nil, rfl, rfl⟩
  | @cons field value _ _ found _ ih =>
    obtain ⟨entries, names, values⟩ := ih
    exact ⟨.cons ⟨rfl, found⟩ entries, congrArg (field.1 :: ·) names, congrArg (value :: ·) values⟩

theorem reads_structure (names : List String) {fields : List (String × Json)} {values : List Json} {value : Value}
    (named : fields.map Prod.fst = names) (distinct : names.Nodup)
    (held : List.Forall₂ (fun field value => value? depth (ofJson field.2) = some value) fields values)
    (takes : ∀ json, Json.structure? names json = some (values.map some) → read json = some value) :
    Reads read (depth + 1) (.object fields) value := by
  obtain ⟨entries, front, back⟩ := entries_zip held
  rw [named] at entries front back
  have given := structure?_ofList (front ▸ distinct)
  have all : (names.zip values).map (fun pair => some pair.2) = values.map some := by
    rw [← Function.comp_def, ← List.map_map, back]
  rw [front, all] at given
  exact reads_iff.mpr ⟨_, value?_object_eq_some_iff.mpr ⟨_, ⟨_, entries, rfl⟩, rfl⟩, takes _ given⟩

theorem reads_array {write : Value → Json} {values : List Value}
    (each : ∀ value ∈ values, Reads read depth (write value) value) :
    Reads (fun json => json.asArray?.bind (List.mapM read)) (depth + 1) (.array (values.map write)) values := by
  have items : ∃ items, itemValues? depth (ofItems (values.map write)) = some items ∧ items.mapM read = some values := by
    induction values with
    | nil => exact ⟨[], rfl, rfl⟩
    | cons value rest ih =>
      obtain ⟨item, held, found⟩ := reads_iff.mp (each value List.mem_cons_self)
      obtain ⟨items, others, all⟩ := ih fun value member => each value (List.mem_cons_of_mem _ member)
      refine ⟨item :: items, ?_, ?_⟩
      · simp [ofItems, itemValues?, held, others]
      · simp [List.mapM_cons, found, all]
  obtain ⟨items, held, all⟩ := items
  exact reads_iff.mpr ⟨.array items, by rw [ofJson, value?, held, Option.map_some], all⟩

theorem reads_named {Choice : Type} [Named Choice] {choice : Choice}
    (known : Named.ofName? (Named.name choice) = some choice) :
    Reads Named.ofJson? depth (Named.toJson choice) choice := by
  rw [Reads, Named.toJson, ofJson, value?]
  exact known

end

end JsonForm

open JsonForm (Reads reads_structure reads_array reads_named reads_iff)

namespace Source

theorem Position.reads (position : Position) (depth : Nat) : Reads ofJson? (depth + 1) position.toJson position := by
  apply reads_structure ["line", "character"] rfl (by decide) (.cons rfl (.cons rfl .nil))
  intro json given
  simp [ofJson?, given, Json.asNat?]

theorem Range.reads (range : Range) (depth : Nat) : Reads ofJson? (depth + 2) range.toJson range := by
  obtain ⟨start, startHeld, startRead⟩ := reads_iff.mp (range.start.reads depth)
  obtain ⟨stop, stopHeld, stopRead⟩ := reads_iff.mp (range.stop.reads depth)
  apply reads_structure ["start", "end"] rfl (by decide) (.cons startHeld (.cons stopHeld .nil))
  intro json given
  simp [ofJson?, given, startRead, stopRead]

end Source

theorem Violation.reads (violation : Violation) (depth : Nat) : Reads ofJson? (depth + 3) violation.toJson violation := by
  have severity : Reads Named.ofJson? (depth + 2) (Named.toJson violation.severity) violation.severity :=
    reads_named (ofName?_name_severity _)
  have kind : Reads Named.ofJson? (depth + 2) (Named.toJson violation.kind) violation.kind :=
    reads_named (ofName?_name_problemKind _)
  have tags : Reads (fun json => json.asArray?.bind (List.mapM Named.ofJson?)) (depth + 2)
      (.array (violation.tags.map Named.toJson)) violation.tags :=
    reads_array fun tag _ => reads_named (ofName?_name_tag tag)
  obtain ⟨_, severityHeld, severityRead⟩ := reads_iff.mp severity
  obtain ⟨_, kindHeld, kindRead⟩ := reads_iff.mp kind
  obtain ⟨_, rangeHeld, rangeRead⟩ := reads_iff.mp (violation.range.reads depth)
  obtain ⟨_, tagsHeld, tagsRead⟩ := reads_iff.mp tags
  apply reads_structure keys rfl (by decide) (.cons rfl (.cons severityHeld (.cons kindHeld (.cons rangeHeld
    (.cons rfl (.cons tagsHeld .nil))))))
  intro json given
  obtain ⟨items, array, tagsRead⟩ := Option.bind_eq_some_iff.mp tagsRead
  simp [ofJson?, given, severityRead, kindRead, rangeRead, array, tagsRead, Json.asString?]

namespace Report

theorem FileReport.reads (file : FileReport) (depth : Nat) :
    Reads FileReport.ofJson? (depth + 5) (FileReport.toJson file) file := by
  have violations : Reads (fun json => json.asArray?.bind (List.mapM Violation.ofJson?)) (depth + 4)
      (.array (file.violations.map Violation.toJson)) file.violations :=
    reads_array fun violation _ => violation.reads depth
  obtain ⟨_, held, read⟩ := reads_iff.mp violations
  apply reads_structure ["path", "violations"] rfl (by decide) (.cons rfl (.cons held .nil))
  intro json given
  obtain ⟨items, array, read⟩ := Option.bind_eq_some_iff.mp read
  simp [FileReport.ofJson?, given, array, read, Json.asString?]

theorem reads (report : Report) (depth : Nat) : Reads ofJson? (depth + 7) report.toJson report := by
  have files : Reads (fun json => json.asArray?.bind (List.mapM FileReport.ofJson?)) (depth + 6)
      (.array (report.files.map FileReport.toJson)) report.files :=
    reads_array fun file _ => FileReport.reads file depth
  obtain ⟨_, held, read⟩ := reads_iff.mp files
  apply reads_structure ["files", "files_checked"] rfl (by decide) (.cons held (.cons rfl .nil))
  intro json given
  obtain ⟨items, array, read⟩ := Option.bind_eq_some_iff.mp read
  simp [ofJson?, given, array, read, Json.asNat?]

end Report

def IsWord (value : Nat) : Prop :=
  value < 0x10000000000000000

instance (value : Nat) : Decidable (IsWord value) :=
  inferInstanceAs (Decidable (_ < _))

structure Source.Position.Fits (position : Source.Position) : Prop where
  line : IsWord position.line
  character : IsWord position.character

instance (position : Source.Position) : Decidable position.Fits :=
  decidable_of_iff (IsWord position.line ∧ IsWord position.character)
    ⟨fun words => ⟨words.1, words.2⟩, fun fits => ⟨fits.line, fits.character⟩⟩

structure Source.Range.Fits (range : Source.Range) : Prop where
  start : range.start.Fits
  stop : range.stop.Fits

instance (range : Source.Range) : Decidable range.Fits :=
  decidable_of_iff (range.start.Fits ∧ range.stop.Fits)
    ⟨fun both => ⟨both.1, both.2⟩, fun fits => ⟨fits.start, fits.stop⟩⟩

/-- Machine words hold all numbers of a report. -/
structure Report.Fits (report : Report) : Prop where
  ranges : ∀ file ∈ report.files, ∀ violation ∈ file.violations, violation.range.Fits
  filesChecked : IsWord report.filesChecked

instance (report : Report) : Decidable report.Fits :=
  decidable_of_iff
    ((∀ file ∈ report.files, ∀ violation ∈ file.violations, violation.range.Fits) ∧ IsWord report.filesChecked)
    ⟨fun all => ⟨all.1, all.2⟩, fun fits => ⟨fits.ranges, fits.filesChecked⟩⟩

theorem Json.integralItems_iff {items : List Json} : IntegralItems items ↔ ∀ item ∈ items, item.Integral := by
  induction items with
  | nil => simp [IntegralItems]
  | cons item rest ih => simp [IntegralItems, ih]

theorem integral_ofNat {value : Nat} (word : IsWord value) : (Json.ofNat value).Integral := by
  unfold IsWord at word
  show JsonNumeral.InRange value
  unfold JsonNumeral.InRange
  omega

theorem Source.Position.Fits.integral {position : Source.Position} (fits : position.Fits) : position.toJson.Integral :=
  ⟨integral_ofNat fits.line, integral_ofNat fits.character, trivial⟩

theorem Source.Range.Fits.integral {range : Source.Range} (fits : range.Fits) : range.toJson.Integral :=
  ⟨fits.start.integral, fits.stop.integral, trivial⟩

theorem Violation.integral {violation : Violation} (fits : violation.range.Fits) : violation.toJson.Integral := by
  have tags : (Json.array (violation.tags.map Named.toJson)).Integral :=
    Json.integralItems_iff.mpr (List.forall_mem_map.mpr fun _ _ => trivial)
  exact ⟨trivial, trivial, trivial, fits.integral, trivial, tags, trivial⟩

theorem Report.Fits.integral {report : Report} (fits : report.Fits) : report.toJson.Integral := by
  have files : (Json.array (report.files.map FileReport.toJson)).Integral := by
    refine Json.integralItems_iff.mpr (List.forall_mem_map.mpr fun file member => ⟨trivial, ?_, trivial⟩)
    exact Json.integralItems_iff.mpr (List.forall_mem_map.mpr fun _ known =>
      Violation.integral (fits.ranges file member _ known))
  exact ⟨files, integral_ofNat fits.filesChecked, trivial⟩

def Report.ofText? (text : String) : Option Report :=
  (Json.ofText? text.toList).bind ofJson?

theorem Report.ofText?_reportText {report : Report} (fits : report.Fits) :
    ofText? (Command.reportText report .json) = some report := by
  have text : (Command.reportText report .json).toList = [] ++ (Json.prettyChars 0 report.toJson ++ ['\n']) := by
    simp [Command.reportText, Command.lines, Json.pretty]
  have padded : (JsonForm.ofJson report.toJson).Padded (Command.reportText report .json).toList := by
    rw [text]
    exact .blanks JsonForm.blank_nil (JsonForm.written_prettyChars 0 fits.integral) (JsonForm.blank_lineStart 0)
  rw [ofText?, Json.ofText?, JsonForm.ofText?_eq_some_iff.mpr padded, Option.bind_some]
  exact report.reads 120

end BslLint
