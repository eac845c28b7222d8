import BslLint.Configuration.Setting
import BslLint.Named
import BslLint.Source.Span

/-! Rules. A rule holds its parameters as a state that `configure` changes, and checks documents. -/

set_option autoImplicit false

namespace BslLint

inductive ParameterError where
  /-- A parameter is unknown or has the wrong type. -/
  | shape
  /-- A parameter has the right type and an unusable value. -/
  | value (name : String) (reason : String)
  /-- A parameter is no valid search pattern. -/
  | pattern (name : String)
  deriving DecidableEq, Repr

namespace ParameterError

instance : Failure ParameterError where
  code
    | .shape => "bsl_analyzer::parameters::shape"
    | .value _ _ | .pattern _ => "bsl_analyzer::parameters::value"
  help? _ := none

def name? : ParameterError → Option String
  | .shape => none
  | .value name _ | .pattern name => some name

def message? : ParameterError → Option String
  | .value name reason => some ("invalid value for `" ++ name ++ "`: " ++ reason)
  | .shape | .pattern _ => none

end ParameterError

abbrev Configuring (State : Type) := ExceptT ParameterError (StateM State)

class Rule (State : Type) where
  /-- Takes over parameters. Rules without parameters accept any. -/
  configure : Parameters → Configuring State Unit := fun _ => pure ()
  check : State → Document → List Source.Finding

namespace Rule

variable {State : Type} [Rule State]

-- The state after `configure`, and whether the parameters were accepted.
def runConfigure (parameters : Parameters) (state : State) : Except ParameterError Unit × State :=
  (configure parameters : Configuring State Unit).run.run state

/-- The state that parameters lead to from a fresh one. No parameters, and refused parameters, leave it
fresh. -/
def configured (fresh : State) (parameters : Parameters) : State :=
  if parameters.isEmpty then fresh
  else match runConfigure parameters fresh with
    | (.ok (), state) => state
    | (.error _, _) => fresh

end Rule

namespace Parameters

def onlyKnown (parameters : Parameters) (known : List String) : Except ParameterError Unit :=
  if parameters.all fun entry => known.contains entry.1 then .ok () else .error .shape

def typed? {Value : Type} (parameters : Parameters) (key : String) (read : Json → Option Value) :
    Except ParameterError (Option Value) :=
  match Dictionary.get? parameters key with
  | none => .ok none
  | some value =>
    match read value with
    | some value => .ok (some value)
    | none => .error .shape

def nullable? {Value : Type} (parameters : Parameters) (key : String) (read : Json → Option Value) :
    Except ParameterError (Option Value) :=
  match Dictionary.get? parameters key with
  | some .null => .ok none
  | _ => parameters.typed? key read

theorem nullable?_of_string {parameters : Parameters} {key text : String}
    (stated : Dictionary.get? parameters key = some (.string text)) :
    parameters.nullable? key Json.asString? = .ok (some text) := by
  rw [nullable?, typed?, stated]
  rfl

end Parameters

end BslLint
