import BslLint.Json.Basic

/-! Names of choices, and what failures are known by. -/

set_option autoImplicit false

namespace BslLint

class Named (Choice : Type) where
  all : List Choice
  name : Choice → String

namespace Named

variable {Choice : Type} [Named Choice]

def ofName? (text : String) : Option Choice :=
  all.find? fun choice => name choice == text

def toJson (choice : Choice) : Json :=
  .string (name choice)

def ofJson? (value : Json) : Option Choice :=
  value.choice?.bind ofName?

theorem name_of_ofName? {text : String} {choice : Choice} (found : ofName? text = some choice) :
    name choice = text := by
  have matched := List.find?_some found
  simpa using matched

end Named

/-- What a failure tells its reader beside its message: a stable code and perhaps some help. -/
class Failure (Error : Type) where
  code : Error → String
  help? : Error → Option String

end BslLint
