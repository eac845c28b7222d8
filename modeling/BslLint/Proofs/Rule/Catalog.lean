import BslLint.Proofs.Dictionary
import BslLint.Proofs.Items
import BslLint.Proofs.Toml.Keys
import BslLint.Rule.Catalog
import Mathlib.Data.List.Induction

/-! Catalogs under changes. Texts are loaded and inserted in any order, and a document may turn out to be no catalog.
What a catalog has for a code in a language are the texts that were given for it last, and all of them. -/

set_option autoImplicit false

namespace BslLint

namespace RuleTexts

/-- A text is what the value for it is. Where no value is given it is empty. -/
@[mk_iff] inductive Fills : Option Toml → String → Prop where
  | missing : Fills none ""
  | given {text : String} : Fills (some (.string text)) text

/-- A table gives texts by name, an array gives them in order. Whatever else stands there does not count. -/
inductive Describes : Toml → RuleTexts → Prop where
  | table {value : Toml} {entries : List (String × Toml)} {texts : RuleTexts} : value.asTable? = some entries →
      Fills (Dictionary.get? entries "name") texts.name → Fills (Dictionary.get? entries "message") texts.message →
      Fills (Dictionary.get? entries "description") texts.description → Describes value texts
  | array {items : List Toml} {texts : RuleTexts} : Fills items[0]? texts.name → Fills items[1]? texts.message →
      Fills items[2]? texts.description → Describes (.array items) texts

theorem asString?_eq_some_iff {value : Toml} {text : String} : value.asString? = some text ↔ value = .string text := by
  cases value <;> simp [Toml.asString?]

theorem ofValues?_eq_some_iff {name message description : Option Toml} {texts : RuleTexts} :
    ofValues? Toml.asString? [name, message, description] = some texts ↔
      Fills name texts.name ∧ Fills message texts.message ∧ Fills description texts.description := by
  unfold ofValues?
  extract_lets text
  have reads (value : Option Toml) (given : String) : text value = some given ↔ Fills value given := by
    cases value with
    | none => simp [text, fills_iff, eq_comm]
    | some value => simp [text, fills_iff, asString?_eq_some_iff]
  simp only [bind, Option.bind_eq_some_iff, mapM_eq_some_iff, reads]
  constructor
  · rintro ⟨_, _ | ⟨name, _ | ⟨message, _ | ⟨description, _ | _⟩⟩⟩, made⟩
    cases made
    exact ⟨name, message, description⟩
  · rintro ⟨name, message, description⟩
    exact ⟨_, .cons name (.cons message (.cons description .nil)), rfl⟩

theorem ofToml?_eq_some_iff {value : Toml} {texts : RuleTexts} :
    ofToml? value = some texts ↔ Describes value texts := by
  have named (entries : List (String × Toml)) : fieldNames.map (Dictionary.get? entries) =
      [Dictionary.get? entries "name", Dictionary.get? entries "message", Dictionary.get? entries "description"] := rfl
  constructor
  · intro read
    unfold ofToml? at read
    split at read
    · obtain ⟨name, message, description⟩ := ofValues?_eq_some_iff.mp read
      exact .array name message description
    · obtain ⟨entries, isTable, read⟩ := Option.bind_eq_some_iff.mp read
      rw [named, ofValues?_eq_some_iff] at read
      exact .table isTable read.1 read.2.1 read.2.2
  · intro describes
    cases describes with
    | array name message description => exact ofValues?_eq_some_iff.mpr ⟨name, message, description⟩
    | @table _ entries _ isTable name message description =>
      have read : ofValues? Toml.asString? (fieldNames.map (Dictionary.get? entries)) = some texts :=
        ofValues?_eq_some_iff.mpr ⟨name, message, description⟩
      -- A moment counts as a table too.
      cases value with
      | table _ | moment _ =>
        cases isTable
        exact read
      | _ => cases isTable

end RuleTexts

namespace Catalog

open RuleTexts

inductive Change where
  | load (language : Language) (content : String)
  | insert (language : Language) (code : String) (texts : RuleTexts)
  deriving DecidableEq, Repr

def Change.language : Change → Language
  | .load language _ => language
  | .insert language _ _ => language

def perform (catalog : Catalog) : Change → Except CatalogError Unit × Catalog
  | .load language content =>
    match catalog.load language content with
    | .ok loaded => (.ok (), loaded)
    | .error error => (.error error, catalog)
  | .insert language code texts => (.ok (), catalog.insert language code texts)

/-- The catalog behind changes, made one after the other. -/
def performAll (catalog : Catalog) (changes : List Change) : Catalog :=
  changes.foldl (fun catalog change => (catalog.perform change).2) catalog

structure HoldsTexts (content : String) (entries : List (String × Toml)) : Prop where
  read : Toml.ofText? content.toList = some (.table entries)
  texts : ∀ entry ∈ entries, ∃ texts, Describes entry.2 texts

inductive Succeeds : Change → Prop where
  | load {language : Language} {content : String} {entries : List (String × Toml)} : HoldsTexts content entries →
      Succeeds (.load language content)
  | insert {language : Language} {code : String} {texts : RuleTexts} : Succeeds (.insert language code texts)

inductive Gives : Change → Language → String → RuleTexts → Prop where
  | load {language : Language} {content code : String} {entries : List (String × Toml)} {value : Toml}
      {texts : RuleTexts} : HoldsTexts content entries → (code, value) ∈ entries → Describes value texts →
      Gives (.load language content) language code texts
  | insert {language : Language} {code : String} {texts : RuleTexts} :
      Gives (.insert language code texts) language code texts

def Mentions (change : Change) (language : Language) (code : String) : Prop :=
  ∃ texts, Gives change language code texts

-- The last of the changes that mention a code in a language gives these texts for it.
def GivesLast (changes : List Change) (language : Language) (code : String) (texts : RuleTexts) : Prop :=
  ∃ earlier change later, changes = earlier ++ change :: later ∧ Gives change language code texts ∧
    ∀ other ∈ later, ¬Mentions other language code

variable {catalog : Catalog} {change : Change} {changes : List Change} {language other : Language}
  {content code : String} {texts : RuleTexts} {given : List (String × RuleTexts)}

theorem exists_textsOfToml?_iff :
    (∃ given, textsOfToml? content = some given) ↔ ∃ entries, HoldsTexts content entries := by
  unfold textsOfToml?
  simp only [bind, Option.bind_eq_some_iff]
  constructor
  · rintro ⟨given, document, read, entries, isTable, all⟩
    obtain ⟨_, rfl, _⟩ := Toml.table_of_ofText? read
    cases isTable
    refine ⟨entries, read, fun entry mem => ?_⟩
    obtain ⟨_, found⟩ := exists_mapM_eq_some_iff.mp ⟨given, all⟩ entry mem
    obtain ⟨texts, described, _⟩ := Option.map_eq_some_iff.mp found
    exact ⟨texts, ofToml?_eq_some_iff.mp described⟩
  · rintro ⟨entries, read, describe⟩
    obtain ⟨given, all⟩ := exists_mapM_eq_some_iff.mpr fun entry mem => by
      obtain ⟨texts, described⟩ := describe entry mem
      exact ⟨(entry.1, texts), Option.map_eq_some_iff.mpr ⟨texts, ofToml?_eq_some_iff.mpr described, rfl⟩⟩
    exact ⟨given, .table entries, read, entries, rfl, all⟩

/-- As no key stands in a document twice, what it gives last for a code is what it gives. -/
theorem lastGiven?_textsOfToml? (read : textsOfToml? content = some given) :
    lastGiven? given code = some texts ↔ Gives (.load language content) language code texts := by
  obtain ⟨entries, holds⟩ := exists_textsOfToml?_iff.mp ⟨given, read⟩
  obtain ⟨_, same, distinct⟩ := Toml.table_of_ofText? holds.read
  cases same
  unfold textsOfToml? at read
  rw [holds.read] at read
  have all : entries.mapM (fun entry => (ofToml? entry.2).map fun texts => (entry.1, texts)) = some given := read
  have keys : entries.map Prod.fst = given.map Prod.fst := by
    rw [← List.forall₂_eq_eq_eq, List.forall₂_map_left_iff, List.forall₂_map_right_iff]
    refine (mapM_eq_some_iff.mp all).imp fun entry pair found => ?_
    obtain ⟨_, _, rfl⟩ := Option.map_eq_some_iff.mp found
    rfl
  rw [lastGiven?_eq_some_iff (keys ▸ distinct), mem_iff_of_mapM_eq_some all]
  constructor
  · rintro ⟨⟨key, value⟩, mem, found⟩
    obtain ⟨_, described, same⟩ := Option.map_eq_some_iff.mp found
    cases same
    exact .load holds mem (ofToml?_eq_some_iff.mp described)
  · intro gives
    cases gives with
    | @load _ _ _ others value _ holdsToo mem describes =>
      have same := holds.read.symm.trans holdsToo.read
      cases same
      exact ⟨(code, value), mem, Option.map_eq_some_iff.mpr ⟨texts, ofToml?_eq_some_iff.mpr describes, rfl⟩⟩

theorem perform_load (read : textsOfToml? content = some given) : catalog.perform (.load language content) =
    (.ok (), catalog.setEntries language (Dictionary.extend (catalog.entries language) given)) := by
  simp only [perform, Catalog.load, read]

theorem perform_load_refused (refused : textsOfToml? content = none) :
    catalog.perform (.load language content) = (.error ⟨language⟩, catalog) := by
  simp only [perform, Catalog.load, refused]

theorem perform_ok_iff : (catalog.perform change).1 = .ok () ↔ Succeeds change := by
  cases change with
  | insert language code texts => exact ⟨fun _ => .insert, fun _ => rfl⟩
  | load language content =>
    cases read : textsOfToml? content with
    | some given =>
      rw [perform_load read]
      obtain ⟨_, holds⟩ := exists_textsOfToml?_iff.mp ⟨given, read⟩
      exact ⟨fun _ => .load holds, fun _ => rfl⟩
    | none =>
      rw [perform_load_refused read]
      refine ⟨nofun, fun succeeds => ?_⟩
      cases succeeds with
      | load holds =>
        obtain ⟨_, found⟩ := exists_textsOfToml?_iff.mpr ⟨_, holds⟩
        cases read.symm.trans found

theorem perform_of_error {error : CatalogError} (failed : (catalog.perform change).1 = .error error) :
    (catalog.perform change).2 = catalog := by
  cases change with
  | insert language code texts => cases failed
  | load language content =>
    cases read : textsOfToml? content with
    | some given =>
      rw [perform_load read] at failed
      cases failed
    | none => rw [perform_load_refused read]

theorem entries_perform_of_ne (differs : change.language ≠ other) :
    (catalog.perform change).2.entries other = catalog.entries other := by
  cases change with
  | insert language code texts => exact catalog.entries_setEntries_of_ne _ differs
  | load language content =>
    cases read : textsOfToml? content with
    | some given =>
      rw [perform_load read]
      exact catalog.entries_setEntries_of_ne _ differs
    | none => rw [perform_load_refused read]

theorem Gives.language_eq (gives : Gives change language code texts) : change.language = language := by
  cases gives <;> rfl

theorem get?_perform (catalog : Catalog) (gives : Gives change language code texts) :
    (catalog.perform change).2.get? language code = some texts := by
  cases change with
  | insert _ _ _ =>
    cases gives with
    | insert =>
      rw [Catalog.get?, perform, Catalog.insert, entries_setEntries_self, Dictionary.get?_insert_self]
  | load _ content =>
    obtain rfl := gives.language_eq
    obtain ⟨given, read⟩ : ∃ given, textsOfToml? content = some given := by
      cases gives with
      | load holds => exact exists_textsOfToml?_iff.mpr ⟨_, holds⟩
    rw [perform_load read, Catalog.get?, Change.language, entries_setEntries_self, Dictionary.extend,
      Dictionary.get?_foldl_insert, (lastGiven?_textsOfToml? read).mpr gives]
    rfl

theorem Gives.unique {more : RuleTexts} (gives : Gives change language code texts)
    (givesMore : Gives change language code more) : texts = more :=
  Option.some.inj ((get?_perform empty gives).symm.trans (get?_perform empty givesMore))

theorem get?_perform_of_not_mentions (absent : ¬Mentions change language code) :
    (catalog.perform change).2.get? language code = catalog.get? language code := by
  by_cases differs : change.language = language
  swap
  · rw [Catalog.get?, entries_perform_of_ne differs, Catalog.get?]
  subst differs
  cases change with
  | insert language own texts =>
    have differs : own ≠ code := by
      rintro rfl
      exact absent ⟨texts, .insert⟩
    rw [Catalog.get?, perform, Catalog.insert, Change.language, entries_setEntries_self,
      Dictionary.get?_insert_of_ne _ _ differs, Catalog.get?]
  | load language content =>
    cases read : textsOfToml? content with
    | none => rw [perform_load_refused read]
    | some given =>
      have nothing : lastGiven? given code = none := by
        by_contra some
        obtain ⟨texts, found⟩ := Option.ne_none_iff_exists'.mp some
        exact absent ⟨texts, (lastGiven?_textsOfToml? read).mp found⟩
      rw [perform_load read, Catalog.get?, Change.language, entries_setEntries_self, Dictionary.extend,
        Dictionary.get?_foldl_insert, nothing]
      rfl

theorem performAll_append : catalog.performAll (changes ++ [change]) =
    ((catalog.performAll changes).perform change).2 := by
  rw [performAll, List.foldl_append]
  rfl

theorem givesLast_append : GivesLast (changes ++ [change]) language code texts ↔
    Gives change language code texts ∨ ¬Mentions change language code ∧ GivesLast changes language code texts := by
  constructor
  · rintro ⟨earlier, own, later, same, gives, absent⟩
    rcases List.eq_nil_or_concat later with rfl | ⟨later, last, rfl⟩
    · obtain ⟨-, same⟩ := List.append_inj' same rfl
      cases same
      exact .inl gives
    · rw [List.concat_eq_append, ← List.cons_append, ← List.append_assoc] at same
      obtain ⟨rfl, ends⟩ := List.append_inj' same rfl
      cases ends
      refine .inr ⟨absent change (by simp), earlier, own, later, rfl, gives, fun other mem => ?_⟩
      exact absent other (by simp [mem])
  · rintro (gives | ⟨absent, earlier, own, later, rfl, gives, none⟩)
    · exact ⟨changes, change, [], rfl, gives, nofun⟩
    · refine ⟨earlier, own, later ++ [change], by simp, gives, fun other mem => ?_⟩
      rcases List.mem_append.mp mem with mem | mem
      · exact none other mem
      · cases List.mem_singleton.mp mem
        exact absent

/-- A catalog has what was given last, and what it had where nothing was given. -/
theorem get?_performAll_iff : (catalog.performAll changes).get? language code = some texts ↔
    GivesLast changes language code texts ∨
      (∀ change ∈ changes, ¬Mentions change language code) ∧ catalog.get? language code = some texts := by
  induction changes using List.reverseRecOn with
  | nil => simp [GivesLast, performAll]
  | append_singleton changes change ih =>
    rw [performAll_append, givesLast_append, List.forall_mem_append, List.forall_mem_singleton]
    by_cases mentions : Mentions change language code
    · obtain ⟨own, gives⟩ := mentions
      rw [get?_perform _ gives, Option.some.injEq]
      constructor
      · rintro rfl
        exact .inl (.inl gives)
      · rintro ((givesToo | ⟨absent, _⟩) | ⟨⟨_, absent⟩, _⟩)
        · exact gives.unique givesToo
        · exact absurd ⟨own, gives⟩ absent
        · exact absurd ⟨own, gives⟩ absent
    · have gives : ¬Gives change language code texts := fun gives => mentions ⟨texts, gives⟩
      rw [get?_perform_of_not_mentions mentions, ih]
      simp only [gives, mentions, not_false_eq_true, false_or, true_and, and_true]

/-- What changes make of a catalog: whole texts, those that were given last, or what was there where none were given. -/
structure LastGivenStand (catalog : Catalog) (changes : List Change) : Prop where
  get?_iff : ∀ language code texts, (catalog.performAll changes).get? language code = some texts ↔
    GivesLast changes language code texts ∨
      (∀ change ∈ changes, ¬Mentions change language code) ∧ catalog.get? language code = some texts
  get?_empty_iff : ∀ language code texts, (empty.performAll changes).get? language code = some texts ↔
    GivesLast changes language code texts

-- What a change can reach of a catalog.
structure Confined (catalog : Catalog) (change : Change) : Prop where
  ok_iff : (catalog.perform change).1 = .ok () ↔ Succeeds change
  refused : ∀ error, (catalog.perform change).1 = .error error → (catalog.perform change).2 = catalog
  language : ∀ language, change.language ≠ language →
    (catalog.perform change).2.entries language = catalog.entries language
  code : ∀ language code, ¬Mentions change language code →
    (catalog.perform change).2.get? language code = catalog.get? language code

theorem last_given_stand (catalog : Catalog) (changes : List Change) :
    LastGivenStand catalog changes ∧ ∀ change, Confined (catalog.performAll changes) change where
  left := {
    get?_iff _ _ _ := get?_performAll_iff
    get?_empty_iff language code texts := by
      have nothing : empty.get? language code = none := by cases language <;> rfl
      rw [get?_performAll_iff, nothing]
      simp only [reduceCtorEq, and_false, or_false] }
  right _ := {
    ok_iff := perform_ok_iff
    refused _ := perform_of_error
    language _ := entries_perform_of_ne
    code _ _ := get?_perform_of_not_mentions }

example : (empty.performAll [.insert .en "a" ⟨"name", "message", "description"⟩, .load .en "a = [\"new\"]",
    .load .en "b = [\"new\"]\na = 1"]).en = [("a", ⟨"new", "", ""⟩)] := by
  decide +kernel

end Catalog

end BslLint
