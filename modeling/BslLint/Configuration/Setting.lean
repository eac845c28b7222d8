import BslLint.Json.Basic

/-! What a configuration says about a single rule. -/

set_option autoImplicit false

namespace BslLint

abbrev Parameters := Dictionary Json

namespace Parameters

def getBool (parameters : Parameters) (key : String) (default : Bool) : Bool :=
  ((Dictionary.get? parameters key).bind Json.asBool?).getD default

def getInt (parameters : Parameters) (key : String) (default : Int) : Int :=
  ((Dictionary.get? parameters key).bind Json.asInt?).getD default

def getString (parameters : Parameters) (key : String) (default : String) : String :=
  ((Dictionary.get? parameters key).bind Json.asString?).getD default

end Parameters

inductive Setting where
  | toggle (enabled : Bool)
  | parameters (values : Parameters)
  deriving DecidableEq, Repr

namespace Setting

def toJson : Setting → Json
  | .toggle enabled => .bool enabled
  | .parameters values => .object values

def ofJson? : Json → Option Setting
  | .bool enabled => some (.toggle enabled)
  | .object fields => some (.parameters fields)
  | _ => none

theorem ofJson?_toJson (setting : Setting) : ofJson? setting.toJson = some setting := by
  cases setting <;> rfl

end Setting

end BslLint
