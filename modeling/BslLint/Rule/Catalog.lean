import BslLint.Named
import BslLint.Rule.Texts
import BslLint.Toml.Reader

/-! Catalogs of rule texts, by language and rule code. -/

set_option autoImplicit false

namespace BslLint

structure Catalog where
  en : Dictionary RuleTexts
  ru : Dictionary RuleTexts
  deriving DecidableEq, Repr

structure CatalogError where
  language : Language
  deriving DecidableEq, Repr

instance : Failure CatalogError where
  code _ := "bsl_analyzer::i18n::catalog"
  help? _ := none

/-- The message up to the colon behind which the reader of the format says what is wrong. -/
def CatalogError.message (error : CatalogError) : String :=
  "invalid `" ++ Named.name error.language ++ "` message catalog"

namespace Catalog

def empty : Catalog :=
  ⟨[], []⟩

def entries (catalog : Catalog) : Language → Dictionary RuleTexts
  | .en => catalog.en
  | .ru => catalog.ru

def setEntries (catalog : Catalog) (language : Language) (entries : Dictionary RuleTexts) : Catalog :=
  match language with
  | .en => { catalog with en := entries }
  | .ru => { catalog with ru := entries }

def get? (catalog : Catalog) (language : Language) (code : String) : Option RuleTexts :=
  Dictionary.get? (catalog.entries language) code

def insert (catalog : Catalog) (language : Language) (code : String) (texts : RuleTexts) : Catalog :=
  catalog.setEntries language (Dictionary.insert (catalog.entries language) code texts)

def textsOfToml? (content : String) : Option (List (String × RuleTexts)) := do
  let entries ← (← Toml.ofText? content.toList).asTable?
  entries.mapM fun (code, value) => (RuleTexts.ofToml? value).map fun texts => (code, texts)

/-- Adds the texts of a TOML document; texts that the catalog has for the same codes are replaced. -/
def load (catalog : Catalog) (language : Language) (content : String) : Except CatalogError Catalog :=
  match textsOfToml? content with
  | some texts => .ok (catalog.setEntries language (Dictionary.extend (catalog.entries language) texts))
  | none => .error ⟨language⟩

/-- The texts of a rule in every language; texts that the catalog lacks are empty. -/
def localized (catalog : Catalog) (code : String) : LocalizedTexts :=
  ⟨(catalog.get? .en code).getD .empty, (catalog.get? .ru code).getD .empty⟩

theorem entries_setEntries_self (catalog : Catalog) (language : Language) (entries : Dictionary RuleTexts) :
    (catalog.setEntries language entries).entries language = entries := by
  cases language <;> rfl

theorem entries_setEntries_of_ne (catalog : Catalog) {language other : Language}
    (entries : Dictionary RuleTexts) (distinct : language ≠ other) :
    (catalog.setEntries language entries).entries other = catalog.entries other := by
  cases language <;> cases other <;> simp_all [setEntries, Catalog.entries]

end Catalog

end BslLint
