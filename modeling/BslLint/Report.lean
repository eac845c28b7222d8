import BslLint.Path
import BslLint.Violation

/-! Reports over several files. -/

set_option autoImplicit false

namespace BslLint

structure FileReport where
  path : Path
  violations : List Violation
  deriving DecidableEq, Repr

structure Report where
  files : List FileReport
  filesChecked : Nat
  deriving DecidableEq, Repr

namespace Report

def empty : Report :=
  ⟨[], 0⟩

def violationLe (left right : Violation) : Bool :=
  if left.range = right.range then decide (left.code ≤ right.code) else left.range.le right.range

/-- Records a checked file. Its violations are sorted; equal ones keep their order. -/
def push (report : Report) (path : Path) (violations : List Violation) : Report where
  files :=
    if violations.isEmpty then report.files
    else report.files ++ [⟨path, violations.mergeSort violationLe⟩]
  filesChecked := report.filesChecked + 1

def entries (report : Report) : List (Path × Violation) :=
  report.files.flatMap fun file => file.violations.map fun violation => (file.path, violation)

def count (report : Report) : Nat :=
  report.entries.length

def hasBlocking (report : Report) : Bool :=
  report.entries.any fun entry => entry.2.isBlocking

def countBySeverity (report : Report) : List (Severity × Nat) :=
  Severity.descending.map fun severity =>
    (severity, report.entries.countP fun entry => entry.2.severity == severity)

def compactLines (report : Report) : List String :=
  report.entries.map fun (path, violation) => path.text ++ ":" ++ violation.display

def FileReport.toJson (file : FileReport) : Json :=
  .object [("path", .string file.path.text), ("violations", .array (file.violations.map Violation.toJson))]

def toJson (report : Report) : Json :=
  .object [("files", .array (report.files.map FileReport.toJson)), ("files_checked", .ofNat report.filesChecked)]

def FileReport.ofJson? (value : Json) : Option FileReport := do
  match ← value.structure? ["path", "violations"] with
  | [some path, some violations] =>
    return ⟨⟨← path.asString?⟩, ← (← violations.asArray?).mapM Violation.ofJson?⟩
  | _ => none

def ofJson? (value : Json) : Option Report := do
  match ← value.structure? ["files", "files_checked"] with
  | [some files, some checked] => return ⟨← (← files.asArray?).mapM FileReport.ofJson?, ← checked.asNat?⟩
  | _ => none

end Report

end BslLint
