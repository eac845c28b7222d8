import BslLint.Configuration.Snapshot
import BslLint.Message
import BslLint.Rule.Registry
import BslLint.Violation

/-! Which rules of a registry run on a document, and with which parameters. -/

set_option autoImplicit false

namespace BslLint

/-- What is known about a document before its content: its file type, and the compatibility mode of its
workspace. -/
structure Context where
  fileType : FileType
  compatibilityMode : Option CompatibilityMode
  deriving DecidableEq, Repr

structure Activation where
  enabled : Bool
  parameters : Parameters
  deriving DecidableEq, Repr

namespace Descriptor

/-- A setting decides; without one the rule's default does. -/
def activation (descriptor : Descriptor) (snapshot : Snapshot) : Activation :=
  match snapshot.setting? descriptor.code with
  | none => ⟨descriptor.metadata.activatedByDefault, []⟩
  | some (.toggle enabled) => ⟨enabled, []⟩
  | some (.parameters values) => ⟨true, values⟩

def inScope (descriptor : Descriptor) (context : Context) : Bool :=
  descriptor.metadata.scope == .all || descriptor.metadata.scope == context.fileType.scope

def fitsMode (descriptor : Descriptor) (context : Context) : Bool :=
  match descriptor.metadata.compatibilityMode, context.compatibilityMode with
  | none, _ => true
  | some _, none => false
  | some required, some actual => decide (required ≤ actual)

def applies (descriptor : Descriptor) (context : Context) : Bool :=
  descriptor.inScope context && descriptor.fitsMode context

def isSelected (descriptor : Descriptor) (context : Context) (snapshot : Snapshot) : Bool :=
  (descriptor.activation snapshot).enabled && descriptor.applies context

end Descriptor

structure UnknownRule where
  code : String
  deriving DecidableEq, Repr

namespace UnknownRule

instance : Failure UnknownRule where
  code _ := "bsl_analyzer::supplier::not_found"
  help? _ := some "run `bsl-analyzer list-rules` to see the available codes"

def message (error : UnknownRule) : String :=
  "unknown rule code `" ++ error.code ++ "`"

end UnknownRule

structure RuleInstance (State : Type) where
  descriptor : Descriptor
  language : Language
  state : State
  deriving DecidableEq, Repr

namespace RuleInstance

variable {State : Type} [Rule State]

def violation (rule : RuleInstance State) (finding : Source.Finding) : Violation where
  code := rule.descriptor.code
  severity := rule.descriptor.metadata.severity
  kind := rule.descriptor.metadata.kind
  range := finding.range
  message := Message.format (rule.descriptor.texts rule.language).message finding.arguments
  tags := rule.descriptor.metadata.tags

def run (rule : RuleInstance State) (document : Document) : List Violation :=
  (Rule.check rule.state document).map rule.violation

end RuleInstance

namespace Registry

variable {State : Type}

-- The descriptors of the rules that run in a context, in registration order.
def selected (registry : Registry State) (context : Context) (snapshot : Snapshot) : List Descriptor :=
  registry.descriptors.filter fun descriptor => descriptor.isSelected context snapshot

variable [Rule State]

-- An instance of the rule that is registered under the code of a descriptor.
def instantiate (registry : Registry State) (descriptor : Descriptor) (snapshot : Snapshot) :
    Except UnknownRule (RuleInstance State) :=
  match registry.find? descriptor.code with
  | none => .error ⟨descriptor.code⟩
  | some rule =>
    .ok {
      descriptor
      language := snapshot.language
      state := Rule.configured rule.fresh (descriptor.activation snapshot).parameters }

def instances (registry : Registry State) (context : Context) (snapshot : Snapshot) :
    List (RuleInstance State) :=
  (registry.selected context snapshot).filterMap fun descriptor =>
    (registry.instantiate descriptor snapshot).toOption

def single (registry : Registry State) (code : String) (snapshot : Snapshot) :
    Except UnknownRule (RuleInstance State) :=
  match registry.lookup? code with
  | none => .error ⟨code⟩
  | some descriptor => registry.instantiate descriptor snapshot

end Registry

end BslLint
