import BslLint.Command.Arguments
import BslLint.Configuration.Reader
import BslLint.Json.Writer
import BslLint.Report
import BslLint.Rule.Registry

/-! What the commands print: reports, the listing of rules, and what the creation of a configuration says. -/

set_option autoImplicit false

namespace BslLint.Command

def lines (texts : List String) : String :=
  String.join (texts.map fun text => text ++ "\n")

inductive Color where
  | red
  | green
  | yellow
  | blue
  | cyan
  deriving DecidableEq, Repr

def Color.code : Color → String
  | .red => "31"
  | .green => "32"
  | .yellow => "33"
  | .blue => "34"
  | .cyan => "36"

def Color.paint (color : Color) (text : String) : String :=
  "\x1b[" ++ color.code ++ "m" ++ text ++ "\x1b[0m"

def severityColor : Severity → Color
  | .blocker | .critical => .red
  | .major => .yellow
  | .minor => .cyan
  | .info => .blue

def summaryColor : Option Severity → Color
  | some .blocker | some .critical => .red
  | some _ => .yellow
  | none => .green

def violationText (path : Path) (violation : Violation) : String :=
  let start := violation.range.start
  lines [
    violation.code ++ " at " ++ path.text ++ ":" ++ Text.decimal (Source.shown start.line) ++ ":" ++
      Text.decimal (Source.shown start.character),
    "  " ++ (severityColor violation.severity).paint (Named.name violation.severity) ++ ": " ++
      violation.message,
    ""]

def summary (counts : List (Severity × Nat)) (filesChecked : Nat) : String :=
  let present := counts.filter fun entry => entry.2 != 0
  let breakdown := ", ".intercalate (present.map fun (severity, count) =>
    Text.decimal count ++ " " ++ Named.name severity)
  let total := Text.decimal (counts.foldl (fun total entry => total + entry.2) 0)
  let problems := if present.isEmpty then "0 problem(s)" else total ++ " problem(s) (" ++ breakdown ++ ")"
  (summaryColor (present.head?.map Prod.fst)).paint
    ("Found " ++ problems ++ " in " ++ Text.decimal filesChecked ++ " file(s)")

def reportText (report : Report) : OutputFormat → String
  | .text =>
    String.join (report.entries.map fun (path, violation) => violationText path violation) ++
      lines [summary report.countBySeverity report.filesChecked]
  | .json => lines [Json.pretty report.toJson]
  | .compact => lines report.compactLines

def padded (width : Nat) (text : String) : String :=
  text ++ String.ofList (List.replicate (width - text.length) ' ')

def row (code severity scope activation since name : String) : String :=
  " ".intercalate [padded 22 code, padded 9 severity, padded 6 scope, padded 8 activation, padded 10 since, name]

def descriptorRow (language : Language) (descriptor : Descriptor) : String :=
  let metadata := descriptor.metadata
  row metadata.code (Named.name metadata.severity) (Named.name metadata.scope)
    (if metadata.activatedByDefault then "on" else "off")
    ((metadata.compatibilityMode.map CompatibilityMode.text).getD "-")
    (descriptor.texts language).name

-- Settings as an example: one rule switched on, and one with a parameter.
def settingsExample : String :=
  "  \x7b \"diagnostics\": \x7b \"CommentedCode\": true, \"LineLength\": \x7b \"maxLineLength\": 150 \x7d \x7d \x7d"

def descriptorJson (language : Language) (descriptor : Descriptor) : Json :=
  let metadata := descriptor.metadata
  let texts := descriptor.texts language
  .object ([("code", .string metadata.code), ("name", .string texts.name),
      ("description", .string texts.description), ("severity", Named.toJson metadata.severity),
      ("scope", Named.toJson metadata.scope), ("activatedByDefault", .bool metadata.activatedByDefault)] ++
    (metadata.compatibilityMode.map fun mode => ("compatibilityMode", mode.toJson)).toList ++
    [("tags", .array (metadata.tags.map Named.toJson))])

def listing (language : Language) (descriptors : List Descriptor) : ListFormat → String
  | .json => lines [Json.pretty (.array (descriptors.map (descriptorJson language)))]
  | .text =>
    lines (["Available rules:", "", row "Code" "Severity" "Scope" "Default" "Since" "Name",
        String.ofList (List.replicate 90 '-')] ++
      descriptors.map (descriptorRow language) ++
      ["", "Enable or disable rules in .bsl-language-server.json, e.g.:", settingsExample])

section

variable {State : Type}

/-- The snapshot that lists the rules of a registry as they are without any setting. -/
def initialSnapshot (registry : Registry State) (language : Language) : Snapshot where
  language
  settings := Dictionary.ofList (registry.descriptors.map fun descriptor =>
    (descriptor.code, .toggle descriptor.metadata.activatedByDefault))
  configurationRoot := none

def initialText (registry : Registry State) (language : Language) : String :=
  lines [Json.pretty (initialSnapshot registry language).toJson]

def initialAdvice : String :=
  lines ["Created " ++ Snapshot.fileName, "", "Next steps:",
    "  1. Edit " ++ Snapshot.fileName ++ " to switch rules on or off", "  2. Run: bsl-analyzer check"]

end

end BslLint.Command
