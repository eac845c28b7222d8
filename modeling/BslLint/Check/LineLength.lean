import BslLint.Rule.Basic
import BslLint.Text.Space

/-! Lines that are longer than a limit. White space at the end of a line does not count. -/

set_option autoImplicit false

namespace BslLint

structure LineLength where
  limit : Nat
  deriving DecidableEq, Repr

namespace LineLength

def standard : LineLength :=
  ⟨120⟩

def limitKey : String := "maxLineLength"

def limit? (parameters : Parameters) : Except ParameterError Nat := do
  parameters.onlyKnown [limitKey]
  let limit := ((← parameters.typed? limitKey Json.asNat?)).getD standard.limit
  if limit = 0 then throw (.value limitKey "must be positive")
  return limit

def checkLine (rule : LineLength) (number : Nat) (line : List Char) : List Source.Finding :=
  let length := (Text.trimEnd line).length
  if rule.limit < length then
    [⟨.onLine number 0 length, [Text.decimal length, Text.decimal rule.limit]⟩]
  else []

instance : Rule LineLength where
  configure parameters := do
    let limit ← MonadExcept.ofExcept (limit? parameters)
    modify fun rule => { rule with limit }
  check rule document := Source.checkLines document rule.checkLine

end LineLength

end BslLint
