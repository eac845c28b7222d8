import BslLint.Classification
import BslLint.Source.Position
import BslLint.Text.Natural

/-! Violations: problems as they are reported to the user. -/

set_option autoImplicit false

namespace BslLint

structure Violation where
  code : String
  severity : Severity
  kind : ProblemKind
  range : Source.Range
  message : String
  tags : List Tag
  deriving DecidableEq, Repr

namespace Violation

def isBlocking (violation : Violation) : Bool :=
  violation.kind == .error || decide (Severity.critical ≤ violation.severity)

def display (violation : Violation) : String :=
  Text.decimal (Source.shown violation.range.start.line) ++ ":" ++
    Text.decimal (Source.shown violation.range.start.character) ++ ": " ++
    Named.name violation.severity ++ " [" ++ violation.code ++ "] " ++ violation.message

def toJson (violation : Violation) : Json :=
  .object [("code", .string violation.code), ("severity", Named.toJson violation.severity),
    ("kind", Named.toJson violation.kind), ("range", violation.range.toJson),
    ("message", .string violation.message), ("tags", .array (violation.tags.map Named.toJson))]

def keys : List String :=
  ["code", "severity", "kind", "range", "message", "tags"]

def ofJson? (value : Json) : Option Violation := do
  match ← value.structure? keys with
  | [some code, some severity, some kind, some range, some message, some tags] =>
    return {
      code := ← code.asString?
      severity := ← Named.ofJson? severity
      kind := ← Named.ofJson? kind
      range := ← Source.Range.ofJson? range
      message := ← message.asString?
      tags := ← (← tags.asArray?).mapM Named.ofJson? }
  | _ => none

end Violation

end BslLint
