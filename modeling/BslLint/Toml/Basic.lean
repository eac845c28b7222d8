import BslLint.Json.Basic

/-! TOML values. -/

set_option autoImplicit false

namespace BslLint

inductive Toml where
  | string (value : String)
  | integer (value : Int)
  | float (value : Number.Double)
  | boolean (value : Bool)
  | moment (text : String)
  | array (items : List Toml)
  | table (entries : List (String × Toml))
  deriving Repr

namespace Toml

instance : Inhabited Toml := ⟨.table []⟩

def momentKey : String := "$__toml_private_datetime"

mutual

/-- The JSON value of a TOML value. Numbers that JSON cannot write become null. -/
def toJson : Toml → Json
  | .string value => .string value
  | .integer value => .ofInt value
  | .float (.finite value) => .number (.double value)
  | .float _ => .null
  | .boolean value => .bool value
  | .moment text => .object [(momentKey, .string text)]
  | .array items => .array (itemsToJson items)
  | .table entries => .object (Dictionary.ofList (entriesToJson entries))

def itemsToJson : List Toml → List Json
  | [] => []
  | item :: rest => item.toJson :: itemsToJson rest

def entriesToJson : List (String × Toml) → List (String × Json)
  | [] => []
  | (key, value) :: rest => (key, value.toJson) :: entriesToJson rest

end

def asString? : Toml → Option String
  | .string value => some value
  | _ => none

def isEmptyCollection : Toml → Bool
  | .array [] => true
  | .table [] => true
  | _ => false

/-- The name of a choice: a text, or a table whose one entry is an empty table or array. -/
def choice? : Toml → Option String
  | .string name => some name
  | .table [(name, value)] => if value.isEmptyCollection then some name else none
  | _ => none

/-- The entries of a table. A date or time counts as a table with one entry. -/
def asTable? : Toml → Option (List (String × Toml))
  | .table entries => some entries
  | .moment text => some [(momentKey, .string text)]
  | _ => none

end Toml

end BslLint
