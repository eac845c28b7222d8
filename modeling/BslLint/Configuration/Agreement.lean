import BslLint.Configuration.Snapshot

/-! When two snapshots say the same. Doubles are compared by value, so that zero has no sign, and paths
by their components. -/

set_option autoImplicit false

namespace BslLint

def JsonNumber.unsignedZero : JsonNumber → JsonNumber
  | .double value => if value.magnitude = 0 then .double ⟨false, 0⟩ else .double value
  | .integer value => .integer value

namespace Json

mutual

def unsignedZeros : Json → Json
  | .number value => .number value.unsignedZero
  | .array items => .array (unsignedZerosOfItems items)
  | .object fields => .object (unsignedZerosOfFields fields)
  | .null => .null
  | .bool value => .bool value
  | .string value => .string value

def unsignedZerosOfItems : List Json → List Json
  | [] => []
  | item :: rest => unsignedZeros item :: unsignedZerosOfItems rest

def unsignedZerosOfFields : List (String × Json) → List (String × Json)
  | [] => []
  | (key, value) :: rest => (key, unsignedZeros value) :: unsignedZerosOfFields rest

end

end Json

namespace Snapshot

/-- What a snapshot says: the language, the settings and the place of the metadata. -/
def sense (snapshot : Snapshot) : Language × List (String × Json) × Option (List Path.Component) :=
  (snapshot.language,
   snapshot.settings.map fun (code, setting) => (code, setting.toJson.unsignedZeros),
   snapshot.configurationRoot.map Path.components)

def agrees (left right : Snapshot) : Bool :=
  left.sense == right.sense

theorem agrees_refl (snapshot : Snapshot) : snapshot.agrees snapshot = true := by
  simp [agrees]

theorem agrees_iff (left right : Snapshot) : left.agrees right = true ↔ left.sense = right.sense := by
  simp [agrees]

end Snapshot

end BslLint
