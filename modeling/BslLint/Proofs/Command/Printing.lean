import BslLint.Proofs.Check.OneLine
import BslLint.Proofs.Command.Checking
import BslLint.Proofs.Report.Reading

/-! What a report looks like when it is printed. The format for programs says all of it; the compact format has an entry
for each violation, which stands on one line if a command has made the report. -/

set_option autoImplicit false

namespace BslLint

open Command (lines reportText)

/-- Whether a machine word holds the index that is counted from one. -/
def Shows (index : Nat) : Prop :=
  index + 1 < 0x10000000000000000

instance (index : Nat) : Decidable (Shows index) :=
  inferInstanceAs (Decidable (_ < _))

theorem Source.shown_of_shows {index : Nat} (shows : Shows index) : shown index = index + 1 :=
  Nat.mod_eq_of_lt shows

/-- The start of a violation can be counted from one. -/
structure Violation.Shows (violation : Violation) : Prop where
  row : BslLint.Shows violation.range.start.line
  column : BslLint.Shows violation.range.start.character

instance (violation : Violation) : Decidable violation.Shows :=
  decidable_of_iff (Shows violation.range.start.line ∧ Shows violation.range.start.character)
    ⟨fun both => ⟨both.1, both.2⟩, fun shows => ⟨shows.row, shows.column⟩⟩

/-- An entry of the compact format, with line and column counted from one. -/
def Violation.entryText (path : Path) (violation : Violation) : String :=
  path.text ++ ":" ++ Text.decimal (violation.range.start.line + 1) ++ ":" ++
    Text.decimal (violation.range.start.character + 1) ++ ": " ++ Named.name violation.severity ++
    " [" ++ violation.code ++ "] " ++ violation.message

/-- A number that cannot be counted from one is shown as zero, which is shorter. -/
theorem Source.length_decimal_shown {index : Nat} (word : IsWord index) :
    (Text.decimal (shown index)).length ≤ (Text.decimal (index + 1)).length ∧
      ((Text.decimal (shown index)).length = (Text.decimal (index + 1)).length → Shows index) := by
  by_cases shows : Shows index
  · rw [shown_of_shows shows]
    exact ⟨Nat.le_refl _, fun _ => shows⟩
  · have last : index = 0xFFFFFFFFFFFFFFFF := by
      unfold Shows at shows
      unfold IsWord at word
      omega
    -- One digit against twenty.
    have shorter : (Text.decimal (shown index)).length < (Text.decimal (index + 1)).length := by
      subst last
      decide +kernel
    exact ⟨Nat.le_of_lt shorter, fun same => absurd same (Nat.ne_of_lt shorter)⟩

namespace Violation

variable {violation : Violation} (path : Path)

theorem display_eq_entryText (shows : violation.Shows) :
    path.text ++ ":" ++ violation.display = violation.entryText path := by
  rw [display, entryText, Source.shown_of_shows shows.row, Source.shown_of_shows shows.column]
  simp only [String.append_assoc]

theorem length_display (fits : violation.range.Fits) :
    (path.text ++ ":" ++ violation.display).length ≤ (violation.entryText path).length ∧
      ((path.text ++ ":" ++ violation.display).length = (violation.entryText path).length → violation.Shows) := by
  obtain ⟨row, ofRow⟩ := Source.length_decimal_shown fits.start.line
  obtain ⟨column, ofColumn⟩ := Source.length_decimal_shown fits.start.character
  simp only [display, entryText, String.length_append]
  constructor
  · omega
  · intro same
    exact ⟨ofRow (by omega), ofColumn (by omega)⟩

end Violation

namespace Command

theorem lines_cons (text : String) (texts : List String) : lines (text :: texts) = text ++ "\n" ++ lines texts := by
  simp [lines]

/-- Texts of which none is longer than its counterpart come to as much only if all are as long. -/
theorem length_lines_map {Item : Type} {first second : Item → String} {items : List Item} {good : Item → Prop}
    (each : ∀ item ∈ items, (first item).length ≤ (second item).length ∧
      ((first item).length = (second item).length → good item)) :
    (lines (items.map first)).length ≤ (lines (items.map second)).length ∧
      ((lines (items.map first)).length = (lines (items.map second)).length → ∀ item ∈ items, good item) := by
  induction items with
  | nil => exact ⟨Nat.le_refl _, fun _ _ none => absurd none List.not_mem_nil⟩
  | cons item rest ih =>
    obtain ⟨short, tight⟩ := each item List.mem_cons_self
    obtain ⟨shorter, others⟩ := ih fun other mem => each other (List.mem_cons_of_mem _ mem)
    simp only [List.map_cons, lines_cons, String.length_append]
    constructor
    · omega
    · intro same
      exact List.forall_mem_cons.mpr ⟨tight (by omega), others (by omega)⟩

theorem count_lines {texts : List String} (oneLine : ∀ text ∈ texts, OneLine text) :
    (lines texts).toList.count '\n' = texts.length := by
  induction texts with
  | nil => rfl
  | cons text rest ih =>
    obtain ⟨first, others⟩ := List.forall_mem_cons.mp oneLine
    rw [lines_cons, String.toList_append, String.toList_append, List.count_append, List.count_append, ih others,
      List.count_eq_zero_of_not_mem first, List.length_cons]
    exact Nat.add_comm 1 _

end Command

namespace Report

variable {report : Report}

theorem compactText_eq_iff (fits : report.Fits) :
    reportText report .compact =
        lines (report.files.flatMap fun file => file.violations.map (Violation.entryText file.path)) ↔
      ∀ file ∈ report.files, ∀ violation ∈ file.violations, violation.Shows := by
  have entries : (report.files.flatMap fun file => file.violations.map (Violation.entryText file.path)) =
      report.entries.map fun entry => entry.2.entryText entry.1 := by
    simp only [Report.entries, List.map_flatMap, List.map_map, Function.comp_def]
  have all : (∀ file ∈ report.files, ∀ violation ∈ file.violations, violation.Shows) ↔
      ∀ entry ∈ report.entries, entry.2.Shows := by
    simp only [Report.entries, List.forall_mem_flatMap, List.forall_mem_map]
  have each : ∀ entry ∈ report.entries,
      (entry.1.text ++ ":" ++ entry.2.display).length ≤ (entry.2.entryText entry.1).length ∧
        ((entry.1.text ++ ":" ++ entry.2.display).length = (entry.2.entryText entry.1).length → entry.2.Shows) := by
    intro entry mem
    obtain ⟨file, listed, known⟩ := List.mem_flatMap.mp mem
    obtain ⟨violation, inside, rfl⟩ := List.mem_map.mp known
    exact violation.length_display file.path (fits.ranges file listed violation inside)
  rw [entries, all, reportText, compactLines]
  constructor
  · -- An entry that wraps around is shorter than it should be, and no entry makes up for it.
    intro same
    exact (Command.length_lines_map each).2 (congrArg String.length same)
  · intro shows
    rw [List.map_congr_left fun entry mem => Violation.display_eq_entryText entry.1 (shows entry mem)]

-- The texts of all violations stand on one line.
def OneLine (report : Report) : Prop :=
  ∀ entry ∈ report.entries, entry.2.OneLine

theorem oneLine_push {path : Path} {violations : List Violation} (oneLine : report.OneLine)
    (each : ∀ violation ∈ violations, violation.OneLine) : (report.push path violations).OneLine := by
  unfold OneLine entries push at *
  split
  · exact oneLine
  · intro entry mem
    rw [List.flatMap_append, List.mem_append] at mem
    rcases mem with before | added
    · exact oneLine entry before
    · rw [List.flatMap_singleton] at added
      obtain ⟨violation, known, rfl⟩ := List.mem_map.mp added
      exact each violation (List.mem_mergeSort.mp known)

/-- Each violation takes one line of the compact format. -/
structure TakesLines (report : Report) : Prop where
  entries : ∀ text ∈ report.compactLines, BslLint.OneLine text
  written : (reportText report .compact).toList.count '\n' = report.count

theorem OneLine.takesLines (oneLine : report.OneLine)
    (paths : ∀ file ∈ report.files, BslLint.OneLine file.path.text) : report.TakesLines := by
  have entries : ∀ text ∈ report.compactLines, BslLint.OneLine text := by
    intro text mem
    obtain ⟨entry, known, rfl⟩ := List.mem_map.mp mem
    obtain ⟨file, listed, inside⟩ := List.mem_flatMap.mp known
    obtain ⟨violation, _, rfl⟩ := List.mem_map.mp inside
    have colon : BslLint.OneLine ":" := by decide
    have display := (oneLine _ known).display
    simp [paths file listed, colon, display]
  refine ⟨entries, ?_⟩
  rw [reportText, Command.count_lines entries, compactLines, List.length_map]
  rfl

end Report

namespace Session

variable {session : Session BuiltinRule} (builtin : session.registry = Builtin.registry) {tree : FileTree}
include builtin

theorem oneLine_of_runRule {code : String} {path : Path} {content : String} {violations : List Violation}
    (ran : (session.call (runRule code path content)).1 = .ok violations) :
    ∀ violation ∈ violations, violation.OneLine := by
  unfold runRule at ran
  split at ran
  · cases ran
  · have got : session.call get = (.ok session, session) := rfl
    rw [call_bind_ok got, builtin] at ran
    split at ran
    · rename_i done
      cases ran
      exact fun violation mem => Builtin.oneLine_of_mem_runRule done mem
    · cases ran

theorem oneLine_of_reportFiles {only : Option (List String)} {paths : List Path} {before after : Report}
    (oneLine : before.OneLine) (done : (session.call (reportFiles tree only before paths)).1 = .ok after) :
    after.OneLine := by
  induction paths generalizing session before with
  | nil =>
    cases done
    exact oneLine
  | cons path paths ih =>
    rw [call_reportFiles_cons, builtin] at done
    split at done
    · cases done
    · cases done
    · -- Only the detection of the session changes from file to file.
      have kept : (session.renewed tree).registry = Builtin.registry := builtin
      exact ih kept (Report.oneLine_push oneLine fun _ mem => Builtin.oneLine_of_mem_analyze mem) done

theorem oneLine_of_analyzeTree {path : Path} {options : TreeOptions} {report : Report}
    (reported : (session.call (analyzeTree tree path options)).1 = .ok report) : report.OneLine := by
  unfold analyzeTree at reported
  split at reported
  · cases reported
  · apply oneLine_of_reportFiles builtin ?_ reported
    intro entry none
    cases none

end Session

theorem Except.toOption_eq_some_iff {Error Value : Type} {result : Except Error Value} {value : Value} :
    result.toOption = some value ↔ result = .ok value := by
  cases result <;> simp [Except.toOption]

namespace Command

/-- The format that a command prints its report in, if it checks or runs a rule. -/
def Task.reportFormat? : Task → Option OutputFormat
  | .check arguments => some arguments.format
  | .runRule _ _ format => some format
  | _ => none

def ranRule? (tree : FileTree) (environment : Environment) (demand : Option Path) (code : String) (file : Path) :
    Option Report := do
  let session ← (openSession tree environment demand file).toOption
  let content ← (tree.readText file).toOption
  let violations ← (session.call (Session.runRule code file content)).1.toOption
  return Report.empty.push file violations

theorem path_of_ranRule? {tree : FileTree} {environment : Environment} {demand : Option Path} {code : String}
    {path : Path} {report : Report} (ran : ranRule? tree environment demand code path = some report) {file : FileReport}
    (listed : file ∈ report.files) : file.path = path := by
  obtain ⟨session, _, ran⟩ := Option.bind_eq_some_iff.mp ran
  obtain ⟨content, _, ran⟩ := Option.bind_eq_some_iff.mp ran
  obtain ⟨violations, _, pushed⟩ := Option.bind_eq_some_iff.mp ran
  cases pushed
  unfold Report.push at listed
  split at listed
  · cases listed
  · cases List.mem_singleton.mp listed
    rfl

/-- The report of a command that checks or runs a rule, unless it fails. -/
def report? (tree : FileTree) (environment : Environment) (invocation : Invocation) : Option Report :=
  match invocation.task with
  | .check arguments => (checked tree environment invocation.configuration arguments).toOption
  | .runRule code file _ => ranRule? tree environment invocation.configuration code file
  | _ => none

variable {tree : FileTree} {environment : Environment} {demand : Option Path}

theorem registry_of_openSession {path : Path} {session : Session BuiltinRule}
    (opened : openSession tree environment demand path = .ok session) : session.registry = Builtin.registry := by
  obtain ⟨_, _, rfl⟩ := Session.openAt_eq_ok_iff.mp opened
  rfl

theorem oneLine_of_checked {arguments : TreeArguments} {report : Report}
    (reported : checked tree environment demand arguments = .ok report) : report.OneLine := by
  cases opened : openSession tree environment demand arguments.path with
  | error error =>
    rw [checked_of_unopened opened] at reported
    cases reported
  | ok session =>
    rw [checked_of_opened opened] at reported
    exact Session.oneLine_of_analyzeTree (registry_of_openSession opened) reported

theorem oneLine_of_report? {invocation : Invocation} {report : Report}
    (reported : report? tree environment invocation = some report) : report.OneLine := by
  unfold report? at reported
  split at reported
  · rename_i arguments _
    apply oneLine_of_checked
    exact Except.toOption_eq_some_iff.mp reported
  · obtain ⟨session, opened, reported⟩ := Option.bind_eq_some_iff.mp reported
    obtain ⟨content, _, reported⟩ := Option.bind_eq_some_iff.mp reported
    obtain ⟨violations, ran, pushed⟩ := Option.bind_eq_some_iff.mp reported
    cases pushed
    have builtin := registry_of_openSession (Except.toOption_eq_some_iff.mp opened)
    apply Report.oneLine_push (fun entry none => absurd none List.not_mem_nil)
    exact Session.oneLine_of_runRule builtin (Except.toOption_eq_some_iff.mp ran)
  · cases reported

-- A command prints its report, or fails.
inductive Progress.Prints (format : OutputFormat) : Progress → Option Report → Prop where
  | failed (complaint : String) : Prints format (.ended (.failed complaint)) none
  | finished (exitCode : UInt8) (report : Report) :
      Prints format (.ended (.finished exitCode (reportText report format))) (some report)

theorem prints_check (verbose : Bool) (arguments : TreeArguments) :
    (perform tree environment ⟨verbose, demand, .check arguments⟩).Prints arguments.format
      (checked tree environment demand arguments).toOption := by
  rw [perform_check]
  cases checked tree environment demand arguments with
  | error error => exact .failed _
  | ok report => exact .finished _ report

theorem prints_runRule (verbose : Bool) (code : String) (file : Path) (format : OutputFormat) :
    (perform tree environment ⟨verbose, demand, .runRule code file format⟩).Prints format
      (ranRule? tree environment demand code file) := by
  unfold perform withSession ranRule?
  dsimp only
  cases openSession tree environment demand file with
  | error error => exact .failed _
  | ok session =>
    dsimp only [Except.toOption, Option.bind_eq_bind, Option.bind_some]
    unfold runRuleOutcome
    cases tree.readText file with
    | error error => exact .failed _
    | ok content =>
      dsimp only [Option.bind_some]
      cases (session.call (Session.runRule code file content)).1 with
      | error error => exact .failed _
      | ok violations => exact .finished 0 _

theorem prints_report {line : List String} {invocation : Invocation} {format : OutputFormat}
    (asks : Request.ofArguments environment.configuration line = .run invocation)
    (formatted : invocation.task.reportFormat? = some format) :
    (run tree environment line).Prints format (report? tree environment invocation) := by
  obtain ⟨verbose, demand, task⟩ := invocation
  rw [run, asks]
  cases task with
  | check arguments =>
    cases formatted
    exact prints_check verbose arguments
  | runRule code file shown =>
    cases formatted
    exact prints_runRule verbose code file format
  | watch _ | listRules _ _ | init _ _ => cases formatted

/-- The JSON of a report is read as the same report. The compact format has the entries of the same violations in the
same order, counted from one, exactly if machine words hold the numbers counted from one. Commands that check or run a
rule print their report or fail, and on paths without line feeds each violation takes one line. -/
theorem reports_printed (report : Report) :
    (report.Fits →
      Report.ofText? (reportText report .json) = some report ∧
      (reportText report .compact =
          lines (report.files.flatMap fun file => file.violations.map (Violation.entryText file.path)) ↔
        ∀ file ∈ report.files, ∀ violation ∈ file.violations, violation.Shows)) ∧
    ∀ (tree : FileTree) (environment : Environment) (line : List String) (invocation : Invocation)
      (format : OutputFormat), Request.ofArguments environment.configuration line = .run invocation →
      invocation.task.reportFormat? = some format →
      (run tree environment line).Prints format (report? tree environment invocation) ∧
      (report? tree environment invocation = some report →
        (∀ file ∈ report.files, OneLine file.path.text) → report.TakesLines) := by
  constructor
  · intro fits
    exact ⟨Report.ofText?_reportText fits, Report.compactText_eq_iff fits⟩
  · intro tree environment line invocation format asks formatted
    refine ⟨prints_report asks formatted, fun reported paths => ?_⟩
    exact (oneLine_of_report? reported).takesLines paths

/-- A report with a message on two lines, and a run of one rule that reports twice. -/
theorem reports_printed_quotes :
    let violation : Violation := ⟨"Quoted", .critical, .vulnerability, ⟨⟨0, 4⟩, ⟨1, 0⟩⟩, "\"a\nb\"", [.sql, .error]⟩
    let report : Report := ⟨[⟨⟨"модуль.bsl"⟩, [violation, violation]⟩, ⟨⟨"b.os"⟩, [violation]⟩], 3⟩
    let tree := FileTree.empty.putFile ["w", "m.bsl"] "Ёж = 1;\n// ёж\nх = ёж;".toUTF8
    let environment : Environment := ⟨none, none, none⟩
    let line := ["run-rule", "YoLetterUsage", "/w/m.bsl", "--format", "compact"]
    let invocation : Invocation := ⟨false, none, .runRule "YoLetterUsage" ⟨"/w/m.bsl"⟩ .compact⟩
    report.Fits ∧ Report.ofText? (reportText report .json) = some report ∧
      reportText report .compact =
        lines (report.files.flatMap fun file => file.violations.map (Violation.entryText file.path)) ∧
      Request.ofArguments environment.configuration line = .run invocation ∧
      (run tree environment line).Prints .compact (report? tree environment invocation) ∧
      ∃ made, report? tree environment invocation = some made ∧ made.TakesLines := by
  intro violation report tree environment line invocation
  have fits : report.Fits := by decide
  have shows : ∀ file ∈ report.files, ∀ violation ∈ file.violations, violation.Shows := by decide
  have asks : Request.ofArguments environment.configuration line = .run invocation := by decide +kernel
  have isMade : (report? tree environment invocation).isSome = true := by decide +kernel
  obtain ⟨made, reported⟩ := Option.isSome_iff_exists.mp isMade
  have paths : ∀ file ∈ made.files, OneLine file.path.text := by
    intro file listed
    rw [path_of_ranRule? reported listed]
    decide
  obtain ⟨read, shown⟩ := (reports_printed report).1 fits
  obtain ⟨prints, takes⟩ := (reports_printed made).2 tree environment line invocation .compact asks rfl
  exact ⟨fits, read, shown.mpr shows, asks, prints, made, reported, takes reported paths⟩

/-- The last number of a machine word is shown as zero. -/
theorem lastWord_shown_as_zero :
    let report : Report := ⟨[⟨⟨"m.bsl"⟩, [⟨"X", .info, .codeSmell,
      ⟨⟨0xFFFFFFFFFFFFFFFF, 0⟩, ⟨0xFFFFFFFFFFFFFFFF, 1⟩⟩, "m", [.sql]⟩]⟩], 1⟩
    let entries := report.files.flatMap fun file => file.violations.map (Violation.entryText file.path)
    report.Fits ∧ reportText report .compact = lines ["m.bsl:0:1: info [X] m"] ∧
      entries = ["m.bsl:18446744073709551616:1: info [X] m"] ∧ reportText report .compact ≠ lines entries := by
  intro report entries
  exact ⟨by decide, by decide +kernel, by decide +kernel, by decide +kernel⟩

end Command

end BslLint
