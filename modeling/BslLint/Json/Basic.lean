import BslLint.Dictionary
import BslLint.Number.Double

/-! JSON values. Objects that were read list their keys in ascending order; objects made for writing
list them in the order of writing. -/

set_option autoImplicit false

namespace BslLint

/-- A JSON number: an integer between -2 ^ 63 and 2 ^ 64 - 1, or a finite double. -/
inductive JsonNumber where
  | integer (value : Int)
  | double (value : Number.FiniteDouble)
  deriving DecidableEq, Repr

inductive Json where
  | null
  | bool (value : Bool)
  | number (value : JsonNumber)
  | string (value : String)
  | array (items : List Json)
  | object (fields : List (String × Json))
  deriving Repr

namespace Json

instance : Inhabited Json := ⟨.null⟩

mutual

def decEq : (left right : Json) → Decidable (left = right)
  | .null, .null => isTrue rfl
  | .bool left, .bool right => if same : left = right then isTrue (by rw [same]) else isFalse (by simp [same])
  | .number left, .number right =>
    if same : left = right then isTrue (by rw [same]) else isFalse (by simp [same])
  | .string left, .string right =>
    if same : left = right then isTrue (by rw [same]) else isFalse (by simp [same])
  | .array left, .array right =>
    match decEqItems left right with
    | isTrue same => isTrue (by rw [same])
    | isFalse differs => isFalse (by simp [differs])
  | .object left, .object right =>
    match decEqFields left right with
    | isTrue same => isTrue (by rw [same])
    | isFalse differs => isFalse (by simp [differs])
  | .null, .bool _ | .null, .number _ | .null, .string _ | .null, .array _ | .null, .object _
  | .bool _, .null | .bool _, .number _ | .bool _, .string _ | .bool _, .array _ | .bool _, .object _
  | .number _, .null | .number _, .bool _ | .number _, .string _ | .number _, .array _ | .number _, .object _
  | .string _, .null | .string _, .bool _ | .string _, .number _ | .string _, .array _ | .string _, .object _
  | .array _, .null | .array _, .bool _ | .array _, .number _ | .array _, .string _ | .array _, .object _
  | .object _, .null | .object _, .bool _ | .object _, .number _ | .object _, .string _ | .object _, .array _ =>
    isFalse nofun

def decEqItems : (left right : List Json) → Decidable (left = right)
  | [], [] => isTrue rfl
  | [], _ :: _ => isFalse nofun
  | _ :: _, [] => isFalse nofun
  | left :: lefts, right :: rights =>
    match decEq left right, decEqItems lefts rights with
    | isTrue head, isTrue tail => isTrue (by rw [head, tail])
    | isFalse head, _ => isFalse (by simp [head])
    | _, isFalse tail => isFalse (by simp [tail])

def decEqFields : (left right : List (String × Json)) → Decidable (left = right)
  | [], [] => isTrue rfl
  | [], _ :: _ => isFalse nofun
  | _ :: _, [] => isFalse nofun
  | (leftKey, left) :: lefts, (rightKey, right) :: rights =>
    if keys : leftKey = rightKey then
      match decEq left right, decEqFields lefts rights with
      | isTrue head, isTrue tail => isTrue (by rw [keys, head, tail])
      | isFalse head, _ => isFalse (by simp [head])
      | _, isFalse tail => isFalse (by simp [tail])
    else isFalse (by simp [keys])

end

instance : DecidableEq Json := decEq

def ofInt (value : Int) : Json :=
  .number (.integer value)

def ofNat (value : Nat) : Json :=
  .number (.integer value)

def asBool? : Json → Option Bool
  | .bool value => some value
  | _ => none

/-- An integer below 2 ^ 63; doubles are not integers, whatever their value. -/
def asInt? : Json → Option Int
  | .number (.integer value) => if value < 0x8000000000000000 then some value else none
  | _ => none

def asNat? : Json → Option Nat
  | .number (.integer value) => if 0 ≤ value then some value.toNat else none
  | _ => none

def asString? : Json → Option String
  | .string value => some value
  | _ => none

def asArray? : Json → Option (List Json)
  | .array items => some items
  | _ => none

def asObject? : Json → Option (List (String × Json))
  | .object fields => some fields
  | _ => none

/-- The field of an object; other values have no fields. -/
def field? (value : Json) (key : String) : Option Json :=
  match value with
  | .object fields => Dictionary.get? fields key
  | _ => none

/-- The value of a structure: an object, or an array that lists the fields in order. A missing field
is `none`; an array with too many items is none. -/
def structure? (names : List String) : Json → Option (List (Option Json))
  | .object fields => some (names.map (Dictionary.get? fields))
  | .array items =>
    if items.length ≤ names.length then
      some (items.map some ++ List.replicate (names.length - items.length) none)
    else none
  | _ => none

def choice? : Json → Option String
  | .string name => some name
  | .object [(name, .null)] => some name
  | _ => none

end Json

end BslLint
