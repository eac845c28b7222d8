import BslLint.Configuration.Snapshot
import BslLint.Json.Reader
import BslLint.Named
import BslLint.Toml.Reader
import BslLint.Workspace.FileTree

/-! Reading configurations, written in JSON or TOML. -/

set_option autoImplicit false

namespace BslLint

inductive ConfigurationFormat where
  | json
  | toml
  deriving DecidableEq, Repr

instance : Named ConfigurationFormat where
  all := [.json, .toml]
  name
    | .json => "json"
    | .toml => "toml"

def ConfigurationFormat.ofPath (path : Path) : ConfigurationFormat :=
  if path.hasExtension "toml" then .toml else .json

inductive ConfigurationError where
  | unreadable
  | invalid
  deriving DecidableEq, Repr

instance : Failure ConfigurationError where
  code
    | .unreadable => "bsl_analyzer::config::io"
    | .invalid => "bsl_analyzer::config::parse"
  help?
    | .unreadable => none
    | .invalid =>
      some "each entry under `diagnostics` must be `true`, `false` or an object of parameters"

namespace JsonForm

def choice? : JsonForm → Option String
  | .string name => name
  | .object [(name, .null)] => name
  | _ => none

/-- The one value of a key, if any; a repeated key is refused. -/
def single? (fields : List (String × JsonForm)) (key : String) : Option (Option JsonForm) :=
  match fields.filter fun field => field.1 == key with
  | [] => some none
  | [field] => some (some field.2)
  | _ => none

def decodedFields? (fields : List (Option String × JsonForm)) : Option (List (String × JsonForm)) :=
  fields.mapM fun field => field.1.map fun key => (key, field.2)

end JsonForm

/-- The value of an optional part, if it is there; `none` when it is there and has no value. -/
def partValue? {Form Value : Type} (part : Option Form) (absent : Value) (read : Form → Option Value) :
    Option Value :=
  match part with
  | none => some absent
  | some form => read form

namespace Setting

def ofForm? (depth : Nat) (form : JsonForm) : Option Setting :=
  (form.value? depth).bind ofJson?

def ofToml? (value : Toml) : Option Setting :=
  ofJson? value.toJson

end Setting

namespace Snapshot

def settingDepth : Nat :=
  Json.depthLimit - 2

def settingsOfForm? : JsonForm → Option (Dictionary Setting)
  | .object fields => do
    let entries ← (← JsonForm.decodedFields? fields).mapM fun (code, form) =>
      (Setting.ofForm? settingDepth form).map fun setting => (code, setting)
    return Dictionary.ofList entries
  | _ => none

def rootOfForm? : JsonForm → Option (Option Path)
  | .null => some none
  | .string text => text.map fun text => some ⟨text⟩
  | _ => none

def ofParts? (language settings root : Option JsonForm) : Option Snapshot := do
  let language ← partValue? language .standard fun form => form.choice?.bind Named.ofName?
  let settings ← partValue? settings [] settingsOfForm?
  let root ← partValue? root none rootOfForm?
  return ⟨language, settings, root⟩

/-- A snapshot is written as an object, or as the array of its values. Other keys of the object do not
matter. -/
def ofForm? : JsonForm → Option Snapshot
  | .object fields => do
    let fields ← JsonForm.decodedFields? fields
    ofParts? (← JsonForm.single? fields languageKey) (← JsonForm.single? fields settingsKey)
      (← JsonForm.single? fields rootKey)
  | .array items =>
    if items.length ≤ keys.length then ofParts? items[0]? items[1]? items[2]? else none
  | _ => none

def ofToml? (value : Toml) : Option Snapshot := do
  let entries ← value.asTable?
  let language ← partValue? (Dictionary.get? entries languageKey) .standard fun value =>
    value.choice?.bind Named.ofName?
  let settings ← partValue? (Dictionary.get? entries settingsKey) [] fun value => do
    let settings ← (← value.asTable?).mapM fun (code, value) =>
      (Setting.ofToml? value).map fun setting => (code, setting)
    return Dictionary.ofList settings
  let root ← partValue? (Dictionary.get? entries rootKey) none fun value =>
    value.asString?.map fun text => some (Path.mk text)
  return ⟨language, settings, root⟩

def ofText? (format : ConfigurationFormat) (text : String) : Option Snapshot :=
  match format with
  | .json => (JsonForm.ofText? text.toList).bind ofForm?
  | .toml => (Toml.ofText? text.toList).bind ofToml?

def parse (format : ConfigurationFormat) (text : String) : Except ConfigurationError Snapshot :=
  match ofText? format text with
  | some snapshot => .ok snapshot
  | none => .error .invalid

/-- Where the configuration of a workspace is, unless another place is asked for. -/
def fileName : String := ".bsl-language-server.json"

/-- Reads a configuration file. A missing file leaves every rule its defaults. -/
def load (tree : FileTree) (path : Path) : Except ConfigurationError Snapshot :=
  match tree.readText path with
  | .ok text => parse (ConfigurationFormat.ofPath path) text
  | .error .notFound => .ok standard
  | .error _ => .error .unreadable

end Snapshot

end BslLint
