import BslLint.Configuration.Setting
import BslLint.Message
import BslLint.Path

/-! Configuration snapshots: all settings as they are at one moment. -/

set_option autoImplicit false

namespace BslLint

structure Snapshot where
  language : Language
  settings : Dictionary Setting
  configurationRoot : Option Path
  deriving DecidableEq, Repr

namespace Snapshot

def standard : Snapshot :=
  ⟨.standard, [], none⟩

instance : Inhabited Snapshot := ⟨standard⟩

def languageKey : String := "diagnosticLanguage"

def settingsKey : String := "diagnostics"

def rootKey : String := "configurationRoot"

def keys : List String :=
  [languageKey, settingsKey, rootKey]

def setting? (snapshot : Snapshot) (code : String) : Option Setting :=
  Dictionary.get? snapshot.settings code

def withLanguage (snapshot : Snapshot) (language : Language) : Snapshot :=
  { snapshot with language }

def withRule (snapshot : Snapshot) (code : String) (setting : Setting) : Snapshot :=
  { snapshot with settings := Dictionary.insert snapshot.settings code setting }

def settingsToJson (settings : Dictionary Setting) : Json :=
  .object (settings.map fun (code, setting) => (code, setting.toJson))

def toJson (snapshot : Snapshot) : Json :=
  .object ([(languageKey, Named.toJson snapshot.language), (settingsKey, settingsToJson snapshot.settings)] ++
    (snapshot.configurationRoot.map fun root => (rootKey, Json.string root.text)).toList)

theorem setting?_withRule_self (snapshot : Snapshot) (code : String) (setting : Setting) :
    (snapshot.withRule code setting).setting? code = some setting :=
  Dictionary.get?_insert_self _ _ _

theorem setting?_withRule_of_ne (snapshot : Snapshot) {code other : String} (setting : Setting)
    (distinct : code ≠ other) : (snapshot.withRule code setting).setting? other = snapshot.setting? other :=
  Dictionary.get?_insert_of_ne _ _ distinct

end Snapshot

end BslLint
