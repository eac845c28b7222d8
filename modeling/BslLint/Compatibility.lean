import BslLint.Json.Basic
import BslLint.Text.Space

/-! Platform compatibility modes. A mode is a platform version, or the absence of any restriction,
which is newer than every version. -/

set_option autoImplicit false

namespace BslLint

structure CompatibilityMode where
  major : UInt32
  minor : UInt32
  version : UInt32
  deriving DecidableEq, Repr

structure InvalidCompatibilityMode where
  text : String
  deriving DecidableEq, Repr

namespace InvalidCompatibilityMode

def message (error : InvalidCompatibilityMode) : String :=
  "invalid compatibility mode `" ++ error.text ++ "`, expected `8.3.10`, `Version8_3_10` or `DontUse`"

end InvalidCompatibilityMode

namespace CompatibilityMode

/-- The mode without restriction. It has the greatest number everywhere. -/
def unrestricted : CompatibilityMode :=
  ⟨0xFFFFFFFF, 0xFFFFFFFF, 0xFFFFFFFF⟩

def isUnrestricted (mode : CompatibilityMode) : Bool :=
  mode == unrestricted

def numbers (mode : CompatibilityMode) : List Nat :=
  [mode.major.toNat, mode.minor.toNat, mode.version.toNat]

instance : Ord CompatibilityMode where
  compare left right := compare left.numbers right.numbers

instance : LE CompatibilityMode where
  le left right := (compare left right).isLE = true

instance (left right : CompatibilityMode) : Decidable (left ≤ right) :=
  inferInstanceAs (Decidable (_ = true))

def chars (mode : CompatibilityMode) : List Char :=
  if mode.isUnrestricted then "DontUse".toList
  else
    Nat.toDigits 10 mode.major.toNat ++ '.' :: (Nat.toDigits 10 mode.minor.toNat ++
      '.' :: Nat.toDigits 10 mode.version.toNat)

def text (mode : CompatibilityMode) : String :=
  String.ofList mode.chars

def numberBound : Nat := 0x100000000

/-- Two or three numbers; a missing third number is zero. -/
def ofNumbers? : List Nat → Option CompatibilityMode
  | [major, minor] => some ⟨UInt32.ofNat major, UInt32.ofNat minor, 0⟩
  | [major, minor, version] => some ⟨UInt32.ofNat major, UInt32.ofNat minor, UInt32.ofNat version⟩
  | _ => none

def body (trimmed : List Char) : List Char × Char :=
  match Text.stripPrefix? "Version".toList trimmed with
  | some rest => (rest, '_')
  | none => (trimmed, '.')

def ofChars? (written : List Char) : Option CompatibilityMode :=
  let trimmed := Text.trim written
  if Text.eqIgnoringAsciiCase trimmed "dontuse".toList then some unrestricted
  else
    let (numbers, separator) := body trimmed
    ((Text.splitOn separator numbers).mapM (Text.boundedNatural? numberBound)).bind ofNumbers?

def parse (written : String) : Except InvalidCompatibilityMode CompatibilityMode :=
  match ofChars? written.toList with
  | some mode => .ok mode
  | none => .error ⟨written⟩

def toJson (mode : CompatibilityMode) : Json :=
  .string mode.text

def ofJson? (value : Json) : Option CompatibilityMode :=
  value.asString?.bind fun written => ofChars? written.toList

end CompatibilityMode

end BslLint
