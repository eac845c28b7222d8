import BslLint.Named

/-! How a rule and its problems are classified: severity, kind of problem, tags and scope. -/

set_option autoImplicit false

namespace BslLint

inductive Severity where
  | info
  | minor
  | major
  | critical
  | blocker
  deriving DecidableEq, Repr

namespace Severity

def rank : Severity → Nat
  | .info => 0
  | .minor => 1
  | .major => 2
  | .critical => 3
  | .blocker => 4

instance : LE Severity where
  le left right := left.rank ≤ right.rank

instance (left right : Severity) : Decidable (left ≤ right) :=
  inferInstanceAs (Decidable (left.rank ≤ right.rank))

theorem le_iff_rank_le (left right : Severity) : left ≤ right ↔ left.rank ≤ right.rank := Iff.rfl

def descending : List Severity :=
  [.blocker, .critical, .major, .minor, .info]

theorem mem_descending (severity : Severity) : severity ∈ descending := by
  cases severity <;> decide

end Severity

instance : Named Severity where
  all := [.info, .minor, .major, .critical, .blocker]
  name
    | .info => "info"
    | .minor => "minor"
    | .major => "major"
    | .critical => "critical"
    | .blocker => "blocker"

inductive ProblemKind where
  | error
  | codeSmell
  | vulnerability
  | securityHotspot
  deriving DecidableEq, Repr

instance : Named ProblemKind where
  all := [.error, .codeSmell, .vulnerability, .securityHotspot]
  name
    | .error => "error"
    | .codeSmell => "code_smell"
    | .vulnerability => "vulnerability"
    | .securityHotspot => "security_hotspot"

/-- Classification tags; a rule carries one to three of them. -/
inductive Tag where
  | standard
  | lockInOs
  | design
  | unpredictable
  | performance
  | brainOverload
  | suspicious
  | badPractice
  | deprecated
  | clumsy
  | localize
  | sql
  | error
  deriving DecidableEq, Repr

instance : Named Tag where
  all := [.standard, .lockInOs, .design, .unpredictable, .performance, .brainOverload, .suspicious,
    .badPractice, .deprecated, .clumsy, .localize, .sql, .error]
  name
    | .standard => "standard"
    | .lockInOs => "lockinos"
    | .design => "design"
    | .unpredictable => "unpredictable"
    | .performance => "performance"
    | .brainOverload => "brainoverload"
    | .suspicious => "suspicious"
    | .badPractice => "badpractice"
    | .deprecated => "deprecated"
    | .clumsy => "clumsy"
    | .localize => "localize"
    | .sql => "sql"
    | .error => "error"

inductive Scope where
  | all
  | bsl
  | os
  deriving DecidableEq, Repr

instance : Named Scope where
  all := [.all, .bsl, .os]
  name
    | .all => "all"
    | .bsl => "bsl"
    | .os => "os"

theorem ofName?_name_severity (severity : Severity) :
    Named.ofName? (Named.name severity) = some severity := by
  cases severity <;> decide

theorem ofName?_name_problemKind (kind : ProblemKind) :
    Named.ofName? (Named.name kind) = some kind := by
  cases kind <;> decide

theorem ofName?_name_tag (tag : Tag) : Named.ofName? (Named.name tag) = some tag := by
  cases tag <;> decide

theorem ofName?_name_scope (scope : Scope) : Named.ofName? (Named.name scope) = some scope := by
  cases scope <;> decide

end BslLint
