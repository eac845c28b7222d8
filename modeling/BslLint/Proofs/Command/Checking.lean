import BslLint.Command.Run
import BslLint.Proofs.Session.Opening
import BslLint.Proofs.Session.Restriction

/-! What the command that checks comes to: one report, from which its exit code and its output are made. With a list
of rules it is the report of all rules, without the violations of the rules that are not in the list. -/

set_option autoImplicit false

namespace BslLint

-- Only the codes in a report decide what is kept of it.
theorem Report.keeping_congr {report : Report} {keep other : String → Bool}
    (same : ∀ entry ∈ report.entries, keep entry.2.code = other entry.2.code) :
    report.keeping keep = report.keeping other := by
  have filtered (file : FileReport) (listed : file ∈ report.files) :
      (file.violations.filter fun violation => keep violation.code) =
        file.violations.filter fun violation => other violation.code := by
    refine List.filter_congr fun violation mem => ?_
    exact same (file.path, violation) (List.mem_flatMap.mpr ⟨file, listed, List.mem_map.mpr ⟨violation, mem, rfl⟩⟩)
  unfold keeping
  rw [List.map_congr_left fun file listed => by rw [filtered file listed]]

theorem Registry.lookup?_isSome {State : Type} {registry : Registry State} {descriptor : Descriptor}
    (known : descriptor ∈ registry.descriptors) : (registry.lookup? descriptor.code).isSome = true := by
  obtain ⟨rule, registered, rfl⟩ := List.mem_map.mp known
  rw [lookup?, Option.isSome_map, find?, List.find?_isSome]
  exact ⟨rule, registered, BEq.rfl⟩

namespace Command

/-- How a command ends that has made a report, or has failed to. -/
def Outcome.ofReport (format : OutputFormat) : Except SessionError Report → Outcome
  | .error error => .ofError error
  | .ok report => .finished (if report.hasBlocking then 1 else 0) (reportText report format)

/-- Opens a session and analyzes what the arguments name. -/
def checked (tree : FileTree) (environment : Environment) (demand : Option Path) (arguments : TreeArguments) :
    Except SessionError Report := do
  (analyzed tree (← openSession tree environment demand arguments.path) arguments).1

section

variable {tree : FileTree} {environment : Environment} {demand : Option Path} {arguments : TreeArguments}

theorem checked_of_unopened {error : SessionError}
    (unopened : openSession tree environment demand arguments.path = .error error) :
    checked tree environment demand arguments = .error error := by
  rw [checked, unopened]
  rfl

theorem checked_of_opened {session : Session BuiltinRule}
    (opened : openSession tree environment demand arguments.path = .ok session) :
    checked tree environment demand arguments = (analyzed tree session arguments).1 := by
  rw [checked, opened]
  rfl

end

theorem checkOutcome_eq (tree : FileTree) (session : Session BuiltinRule) (arguments : TreeArguments) :
    checkOutcome tree session arguments = .ofReport arguments.format (analyzed tree session arguments).1 := by
  unfold checkOutcome
  cases (analyzed tree session arguments).1 <;> rfl

theorem perform_check (tree : FileTree) (environment : Environment) (verbose : Bool) (demand : Option Path)
    (arguments : TreeArguments) : perform tree environment ⟨verbose, demand, .check arguments⟩ =
      .ended (.ofReport arguments.format (checked tree environment demand arguments)) := by
  unfold perform withSession
  dsimp only
  cases opened : openSession tree environment demand arguments.path with
  | error error =>
    rw [checked_of_unopened opened]
    rfl
  | ok session =>
    rw [checked_of_opened opened]
    exact congrArg Progress.ended (checkOutcome_eq tree session arguments)

def Asks (environment : Environment) (line : List String) (demand : Option Path) (arguments : TreeArguments) : Prop :=
  ∃ verbose, Request.ofArguments environment.configuration line = .run ⟨verbose, demand, .check arguments⟩

theorem run_of_asks {environment : Environment} {line : List String} {demand : Option Path}
    {arguments : TreeArguments} (asks : Asks environment line demand arguments) (tree : FileTree) :
    run tree environment line = .ended (.ofReport arguments.format (checked tree environment demand arguments)) := by
  obtain ⟨verbose, read⟩ := asks
  rw [run, read]
  exact perform_check tree environment verbose demand arguments

/-- The names between the commas of a text, without the white space around them. Empty names do not count. -/
def namesIn (filter : String) : List String :=
  ((Text.splitOn ',' filter.toList).map fun name => String.ofList (Text.trim name)).filter (· != "")

theorem knownCodes_eq {State : Type} (registry : Registry State) (filter : String) :
    knownCodes registry filter = (namesIn filter).filter fun name => (registry.lookup? name).isSome := by
  rw [namesIn, List.filter_filter]
  simp only [knownCodes, Bool.and_comm]

/-- Among codes of rules, those that a list names are the same with and without its other names. -/
theorem contains_knownCodes {State : Type} {registry : Registry State} {descriptor : Descriptor}
    (known : descriptor ∈ registry.descriptors) (filter : String) :
    (knownCodes registry filter).contains descriptor.code = (namesIn filter).contains descriptor.code := by
  rw [Bool.eq_iff_iff, List.contains_iff_mem, List.contains_iff_mem, knownCodes_eq, List.mem_filter]
  exact and_iff_left (Registry.lookup?_isSome known)

variable (tree : FileTree) (path : Path) (format : OutputFormat) (exclude : List String) (filter : String)

theorem analyzed_rules (session : Session BuiltinRule) :
    (analyzed tree session ⟨path, format, some filter, exclude⟩).1 =
      (analyzed tree session ⟨path, format, none, exclude⟩).1.map (Report.keeping (namesIn filter).contains) := by
  refine (session.restrictsTo tree path exclude (knownCodes session.registry filter)).projected.trans ?_
  change _ = (session.call (Session.analyzeTree tree path ⟨exclude, none⟩)).1.map _
  cases reported : (session.call (Session.analyzeTree tree path ⟨exclude, none⟩)).1 with
  | error error => rfl
  | ok report =>
    refine congrArg Except.ok (Report.keeping_congr fun entry mem => ?_)
    obtain ⟨descriptor, known, own, _⟩ := Session.runs_of_mem_entries reported mem
    rw [← own, contains_knownCodes known]

theorem checked_rules (environment : Environment) (demand : Option Path) :
    checked tree environment demand ⟨path, format, some filter, exclude⟩ =
      (checked tree environment demand ⟨path, format, none, exclude⟩).map
        (Report.keeping (namesIn filter).contains) := by
  unfold checked
  dsimp only
  cases openSession tree environment demand path with
  | error error => rfl
  | ok session => exact analyzed_rules tree path format exclude filter session

end Command

open Command in
/-- A run for some rules is the run for all rules without the violations of the others. A session takes codes of
rules; a command line takes names between commas, of which those that no rule has make no difference. -/
theorem run_restricted_projects :
    (∀ (State : Type) [Rule State] (session : Session State) (tree : FileTree) (path : Path)
      (exclude codes : List String), session.RestrictsTo tree path exclude codes) ∧
    ∀ (tree : FileTree) (environment : Environment) (demand : Option Path) (path : Path) (format : OutputFormat)
      (exclude : List String),
      (∀ line, Asks environment line demand ⟨path, format, none, exclude⟩ →
        run tree environment line =
          .ended (.ofReport format (checked tree environment demand ⟨path, format, none, exclude⟩))) ∧
      ∀ line filter, Asks environment line demand ⟨path, format, some filter, exclude⟩ →
        run tree environment line =
          .ended (.ofReport format ((checked tree environment demand ⟨path, format, none, exclude⟩).map
            (Report.keeping (namesIn filter).contains))) := by
  refine ⟨fun State _ session tree path exclude codes => session.restrictsTo tree path exclude codes, ?_⟩
  intro tree environment demand path format exclude
  refine ⟨fun line asks => run_of_asks asks tree, fun line filter asks => ?_⟩
  rw [← checked_rules]
  exact run_of_asks asks tree

open Command in
/-- A list with the code of one rule twice, a code that no rule has, and an empty one. Of two findings it keeps one. -/
theorem run_restricted_projects_oneKept :
    let content := "Если Ёж > 42 Тогда"
    let tree := FileTree.empty.putFile ["w", "a.bsl"] content.toUTF8
    let environment : Environment := ⟨none, none, none⟩
    let all := ["check", "/w", "-e", "b.*"]
    let some := all ++ ["--rules", " YoLetterUsage ,,Nothing,YoLetterUsage"]
    let arguments : TreeArguments := ⟨⟨"/w"⟩, .text, none, ["b.*"]⟩
    let codes := ["YoLetterUsage", "Nothing", "YoLetterUsage"]
    let found := (Builtin.registry.instances ⟨.bsl, none⟩ .standard).flatMap fun rule =>
      (rule.run (.ofText ⟨"/w/a.bsl"⟩ .bsl content)).map Violation.code
    namesIn " YoLetterUsage ,,Nothing,YoLetterUsage" = codes ∧
      Asks environment all none arguments ∧
      Asks environment some none { arguments with rules := " YoLetterUsage ,,Nothing,YoLetterUsage" } ∧
      found = ["YoLetterUsage", "MagicNumber"] ∧ found.filter codes.contains = ["YoLetterUsage"] ∧
      run tree environment all = .ended (.ofReport .text (checked tree environment none arguments)) ∧
      run tree environment some = .ended (.ofReport .text ((checked tree environment none arguments).map
        (Report.keeping codes.contains))) := by
  intro content tree environment all some arguments codes found
  have names : namesIn " YoLetterUsage ,,Nothing,YoLetterUsage" = codes := by decide +kernel
  have asksAll : Asks environment all none arguments := ⟨false, by decide +kernel⟩
  have asksSome : Asks environment some none { arguments with rules := " YoLetterUsage ,,Nothing,YoLetterUsage" } :=
    ⟨false, by decide +kernel⟩
  have reported : found = ["YoLetterUsage", "MagicNumber"] := by decide +kernel
  obtain ⟨unrestricted, restricted⟩ := run_restricted_projects.2 tree environment none ⟨"/w"⟩ .text ["b.*"]
  exact ⟨names, asksAll, asksSome, reported, reported ▸ by decide, unrestricted all asksAll,
    names ▸ restricted some _ asksSome⟩

end BslLint
