import BslLint.Json.Basic
import BslLint.Message
import BslLint.Text.Space
import BslLint.Toml.Basic

/-! The texts of a rule: its name, the template of its messages, and its description. -/

set_option autoImplicit false

namespace BslLint

structure RuleTexts where
  name : String
  message : String
  description : String
  deriving DecidableEq, Repr

namespace RuleTexts

def empty : RuleTexts :=
  ⟨"", "", ""⟩

instance : Inhabited RuleTexts := ⟨empty⟩

/-- The texts by the names of their fields, in the order in which a list of values fills them. -/
def fields (texts : RuleTexts) : List (String × String) :=
  [("name", texts.name), ("message", texts.message), ("description", texts.description)]

def fieldNames : List String :=
  empty.fields.map Prod.fst

def firstMissing? (texts : RuleTexts) : Option String :=
  (texts.fields.find? fun field => Text.isBlank field.2.toList).map Prod.fst

def toJson (texts : RuleTexts) : Json :=
  .object (texts.fields.map fun (name, text) => (name, .string text))

/-- The texts of values for the fields; a missing value leaves the text empty. -/
def ofValues? {Value : Type} (asString? : Value → Option String) (values : List (Option Value)) :
    Option RuleTexts := do
  let text (value : Option Value) : Option String := match value with
    | none => some ""
    | some value => asString? value
  match ← values.mapM text with
  | [name, message, description] => return ⟨name, message, description⟩
  | _ => none

def ofJson? (value : Json) : Option RuleTexts :=
  (value.structure? fieldNames).bind (ofValues? Json.asString?)

/-- Texts in TOML are a table, or an array of which only the first items count. -/
def ofToml? (value : Toml) : Option RuleTexts :=
  match value with
  | .array items => ofValues? Toml.asString? [items[0]?, items[1]?, items[2]?]
  | _ => do
    let entries ← value.asTable?
    ofValues? Toml.asString? (fieldNames.map (Dictionary.get? entries))

end RuleTexts

structure LocalizedTexts where
  en : RuleTexts
  ru : RuleTexts
  deriving DecidableEq, Repr

namespace LocalizedTexts

def texts (localized : LocalizedTexts) : Language → RuleTexts
  | .en => localized.en
  | .ru => localized.ru

end LocalizedTexts

end BslLint
