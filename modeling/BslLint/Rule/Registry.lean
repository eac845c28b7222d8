import BslLint.Rule.Basic
import BslLint.Rule.Catalog
import BslLint.Rule.Metadata

/-! Registries of rules. A registry is built from a list of rules, whose codes, tags and texts it checks. -/

set_option autoImplicit false

namespace BslLint

inductive RegistryError where
  | emptyCode
  | duplicateCode (code : String)
  | tagCount (code : String) (count : Nat)
  | duplicateTag (code : String) (tag : Tag)
  | missingText (code : String) (language : Language) (field : String)
  deriving DecidableEq, Repr

namespace RegistryError

instance : Failure RegistryError where
  code
    | .emptyCode => "bsl_analyzer::registry::empty_code"
    | .duplicateCode _ => "bsl_analyzer::registry::duplicate_code"
    | .tagCount _ _ => "bsl_analyzer::registry::tag_count"
    | .duplicateTag _ _ => "bsl_analyzer::registry::duplicate_tag"
    | .missingText _ _ _ => "bsl_analyzer::registry::missing_text"
  help?
    | .duplicateCode _ => some "rule codes must be unique across the registration list"
    | .missingText _ language _ => some ("add the text to the `" ++ Named.name language ++ "` message catalog")
    | _ => none

def message : RegistryError → String
  | .emptyCode => "a rule declares an empty code"
  | .duplicateCode code => "duplicate rule code `" ++ code ++ "`"
  | .tagCount code count =>
    "rule `" ++ code ++ "` has " ++ Text.decimal count ++ " tag(s), expected between 1 and 3"
  | .duplicateTag code tag => "rule `" ++ code ++ "` lists tag `" ++ Named.name tag ++ "` more than once"
  | .missingText code language field =>
    "rule `" ++ code ++ "` has no `" ++ field ++ "` text for language `" ++ Named.name language ++ "`"

end RegistryError

/-- A registered rule: its descriptor and its state before any configuration. -/
structure RegisteredRule (State : Type) where
  descriptor : Descriptor
  fresh : State
  deriving DecidableEq, Repr

structure Registry (State : Type) where
  rules : List (RegisteredRule State)
  deriving DecidableEq, Repr

namespace Registry

def firstRepeated? {Item : Type} [DecidableEq Item] (seen : List Item) : List Item → Option Item
  | [] => none
  | item :: rest => if item ∈ seen then some item else firstRepeated? (item :: seen) rest

def completeTexts (catalog : Catalog) (code : String) : Except RegistryError LocalizedTexts :=
  let localized := catalog.localized code
  match localized.en.firstMissing? with
  | some field => .error (.missingText code .en field)
  | none =>
    match localized.ru.firstMissing? with
    | some field => .error (.missingText code .ru field)
    | none => .ok localized

def describe (catalog : Catalog) (taken : List String) (metadata : RuleMetadata) :
    Except RegistryError Descriptor := do
  if Text.isBlank metadata.code.toList then throw .emptyCode
  if metadata.tags.length = 0 ∨ 3 < metadata.tags.length then
    throw (.tagCount metadata.code metadata.tags.length)
  match firstRepeated? [] metadata.tags with
  | some tag => throw (.duplicateTag metadata.code tag)
  | none => pure ()
  if metadata.code ∈ taken then throw (.duplicateCode metadata.code)
  return ⟨metadata, ← completeTexts catalog metadata.code⟩

variable {State : Type}

def buildFrom (catalog : Catalog) (taken : List String) :
    List (RuleMetadata × State) → Except RegistryError (List (RegisteredRule State))
  | [] => .ok []
  | (metadata, fresh) :: rest => do
    let descriptor ← describe catalog taken metadata
    let rules ← buildFrom catalog (metadata.code :: taken) rest
    return ⟨descriptor, fresh⟩ :: rules

/-- Registers rules in order. The first rule that fails a check decides the error. -/
def build (catalog : Catalog) (rules : List (RuleMetadata × State)) :
    Except RegistryError (Registry State) :=
  (buildFrom catalog [] rules).map Registry.mk

def descriptors (registry : Registry State) : List Descriptor :=
  registry.rules.map RegisteredRule.descriptor

def codes (registry : Registry State) : List String :=
  registry.descriptors.map Descriptor.code

def find? (registry : Registry State) (code : String) : Option (RegisteredRule State) :=
  registry.rules.find? fun rule => rule.descriptor.code == code

def lookup? (registry : Registry State) (code : String) : Option Descriptor :=
  (registry.find? code).map RegisteredRule.descriptor

end Registry

end BslLint
