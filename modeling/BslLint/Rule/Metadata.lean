import BslLint.Classification
import BslLint.Compatibility
import BslLint.Rule.Texts

/-! What a rule declares about itself, and the descriptor that adds its texts. -/

set_option autoImplicit false

namespace BslLint

structure RuleMetadata where
  code : String
  activatedByDefault : Bool
  scope : Scope
  /-- The oldest platform that the rule applies to. -/
  compatibilityMode : Option CompatibilityMode
  tags : List Tag
  severity : Severity
  kind : ProblemKind
  minutesToFix : UInt32
  deriving DecidableEq, Repr

structure Descriptor where
  metadata : RuleMetadata
  localized : LocalizedTexts
  deriving DecidableEq, Repr

namespace Descriptor

def code (descriptor : Descriptor) : String :=
  descriptor.metadata.code

def texts (descriptor : Descriptor) (language : Language) : RuleTexts :=
  descriptor.localized.texts language

end Descriptor

end BslLint
