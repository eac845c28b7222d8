import BslLint.Rule.Selection

/-! What the rules of a registry report on one document, in the order of the ranges. -/

set_option autoImplicit false

namespace BslLint

namespace Violation

def rangeLe (left right : Violation) : Bool :=
  left.range.le right.range

/-- Violations in the order of their ranges; those on the same range keep their order. -/
def inOrder (violations : List Violation) : List Violation :=
  violations.mergeSort rangeLe

end Violation

namespace Registry

variable {State : Type} [Rule State]

def includes (only : Option (List String)) (rule : RuleInstance State) : Bool :=
  match only with
  | none => true
  | some codes => codes.contains rule.descriptor.code

def analyze (registry : Registry State) (snapshot : Snapshot) (context : Context)
    (only : Option (List String)) (path : Path) (content : String) : List Violation :=
  let document := Document.ofText path context.fileType content
  let rules := (registry.instances context snapshot).filter (includes only)
  Violation.inOrder (rules.flatMap fun rule => rule.run document)

def runRule (registry : Registry State) (snapshot : Snapshot) (code : String) (path : Path)
    (fileType : FileType) (content : String) : Except UnknownRule (List Violation) :=
  (registry.single code snapshot).map fun rule =>
    Violation.inOrder (rule.run (Document.ofText path fileType content))

end Registry

end BslLint
