import BslLint.Proofs.Configuration.Shape
import BslLint.Proofs.Json.Order

/-! What does not matter in a configuration: the order of fields with different keys, at any depth, and fields of the
outermost object under other keys than the known ones. -/

set_option autoImplicit false

namespace BslLint

open JsonForm (Reordered)

variable {form other : JsonForm}

theorem JsonForm.eq_null_iff_of_reordered (reordered : Reordered form other) : form = .null ↔ other = .null := by
  induction reordered with
  | refl => exact Iff.rfl
  | trans _ _ first second => exact first.trans second
  | _ => exact ⟨nofun, nofun⟩

theorem JsonForm.choice?_of_two {fields : List (Option String × JsonForm)} (two : 2 ≤ fields.length) :
    choice? (.object fields) = none := by
  match fields with
  | _ :: _ :: _ => rw [choice?] <;> nofun

theorem JsonForm.choice?_of_ne_null {key : Option String} {value : JsonForm} (other : value ≠ .null) :
    choice? (.object [(key, value)]) = none := by
  cases value with
  | null => exact absurd rfl other
  | _ => rfl

theorem JsonForm.choice?_of_reordered (reordered : Reordered form other) : form.choice? = other.choice? := by
  induction reordered with
  | refl => rfl
  | trans _ _ first second => exact first.trans second
  | exchange => rw [choice?_of_two (by simp; omega), choice?_of_two (by simp; omega)]
  | item => rfl
  | @field before after key value other reordered _ =>
    by_cases single : before = [] ∧ after = []
    · obtain ⟨rfl, rfl⟩ := single
      by_cases null : value = .null
      · rw [null, (eq_null_iff_of_reordered reordered).mp null]
      · rw [List.nil_append, List.nil_append, choice?_of_ne_null null,
          choice?_of_ne_null fun other => null ((eq_null_iff_of_reordered reordered).mpr other)]
    · -- With another field beside it, no value makes the object a choice.
      have two : 1 ≤ before.length + after.length := by
        rw [← List.length_eq_zero_iff, ← List.length_eq_zero_iff] at single
        omega
      rw [choice?_of_two (by simp; omega), choice?_of_two (by simp; omega)]

theorem Snapshot.rootOfForm?_of_reordered (reordered : Reordered form other) :
    rootOfForm? form = rootOfForm? other := by
  induction reordered with
  | trans _ _ first second => exact first.trans second
  | _ => rfl

theorem Setting.ofForm?_of_reordered (reordered : Reordered form other) (bound : Nat) :
    ofForm? bound form = ofForm? bound other := by
  rw [ofForm?, ofForm?, JsonForm.value?_of_reordered reordered]

theorem Snapshot.settingsOfForm?_of_reordered (reordered : Reordered form other) :
    settingsOfForm? form = settingsOfForm? other := by
  induction reordered with
  | refl => rfl
  | trans _ _ first second => exact first.trans second
  | exchange differ =>
    refine Option.ext fun settings => ?_
    rw [settingsOfForm?_object, settingsOfForm?_object, JsonForm.readAs_exchange differ]
  | item => rfl
  | field reordered _ =>
    refine Option.ext fun settings => ?_
    rw [settingsOfForm?_object, settingsOfForm?_object,
      JsonForm.readAs_replace (Setting.ofForm?_of_reordered reordered _)]

theorem Snapshot.partValue?_of_rel {Value : Type} {read : JsonForm → Option Value} {absent : Value}
    (keeps : ∀ {form other}, Reordered form other → read form = read other) {part changed : Option JsonForm}
    (related : Option.Rel Reordered part changed) : partValue? part absent read = partValue? changed absent read := by
  cases related with
  | some reordered => exact keeps reordered
  | none => rfl

namespace JsonForm

theorem denotes_of_reordered (reordered : Reordered form other) : form.Denotes ↔ other.Denotes := by
  induction reordered with
  | refl => exact Iff.rfl
  | trans _ _ first second => exact first.trans second
  | exchange =>
    simp only [Denotes, fieldsDenote_iff, List.forall_mem_append, List.forall_mem_cons]
    tauto
  | item _ ih => simp only [Denotes, itemsDenote_iff, List.forall_mem_append, List.forall_mem_cons, ih]
  | field _ ih => simp only [Denotes, fieldsDenote_iff, List.forall_mem_append, List.forall_mem_cons, ih]

theorem Reordered.symm (reordered : Reordered form other) : Reordered other form := by
  induction reordered with
  | refl => exact .refl _
  | trans _ _ first second => exact second.trans first
  | exchange differ => exact .exchange differ.symm
  | item _ ih => exact .item ih
  | field _ ih => exact .field ih

theorem rel_refl (part : Option JsonForm) : Option.Rel Reordered part part := by
  cases part with
  | none => exact .none
  | some form => exact .some (.refl form)

theorem rel_trans {first second third : Option JsonForm} (left : Option.Rel Reordered first second)
    (right : Option.Rel Reordered second third) : Option.Rel Reordered first third := by
  cases left with
  | none => exact right
  | some left =>
    cases right with
    | some right => exact .some (left.trans right)

variable {fields before after : List (Option String × JsonForm)} {key : String} {part : Option JsonForm}

theorem given_exchange {first second : Option String × JsonForm} (differ : first.1 ≠ second.1)
    (given : Given (before ++ first :: second :: after) key part) :
    Given (before ++ second :: first :: after) key part := by
  rw [Given] at *
  rw [← given]
  simp only [List.filter_append, List.filter_cons, decide_eq_true_eq]
  by_cases keyed : first.1 = some key
  · have other : second.1 ≠ some key := fun same => differ (keyed.trans same.symm)
    simp only [keyed, other, if_true, if_false]
  · simp only [keyed, if_false]

theorem given_replace {name : Option String} {value changed : JsonForm} (reordered : Reordered value changed)
    (given : Given (before ++ (name, value) :: after) key part) :
    ∃ replaced, Given (before ++ (name, changed) :: after) key replaced ∧ Option.Rel Reordered part replaced := by
  rw [Given, List.filter_append, List.filter_cons] at given
  by_cases keyed : name = some key
  · subst keyed
    rw [if_pos (decide_eq_true rfl)] at given
    cases part with
    | none => simp at given
    | some form =>
      rw [Option.map_some, Option.toList_some, List.append_eq_singleton_iff] at given
      obtain ⟨front, tail⟩ | ⟨_, tail⟩ := given
      · obtain ⟨same, none⟩ := List.cons.inj tail
        cases same
        refine ⟨some changed, ?_, .some reordered⟩
        rw [Given, List.filter_append, List.filter_cons, if_pos (decide_eq_true rfl), front, none]
        rfl
      · cases tail
  · rw [if_neg (by simpa using keyed)] at given
    refine ⟨part, ?_, rel_refl part⟩
    rw [Given, List.filter_append, List.filter_cons, if_neg (by simpa using keyed), given]

theorem getElem?_replace {before after : List JsonForm} {item changed : JsonForm} (reordered : Reordered item changed)
    (index : Nat) :
    Option.Rel Reordered (before ++ item :: after)[index]? (before ++ changed :: after)[index]? := by
  rcases Nat.lt_or_ge index before.length with front | tail
  · rw [List.getElem?_append_left front, List.getElem?_append_left front]
    exact rel_refl _
  · rw [List.getElem?_append_right tail, List.getElem?_append_right tail]
    cases index - before.length with
    | zero => exact .some reordered
    | succ => exact rel_refl _

end JsonForm

namespace Snapshot

open JsonForm (rel_refl rel_trans)

theorem HasParts.reordered (reordered : Reordered form other) {language settings root : Option JsonForm}
    (parts : HasParts form language settings root) : ∃ language' settings' root',
      HasParts other language' settings' root' ∧ Option.Rel Reordered language language' ∧
      Option.Rel Reordered settings settings' ∧ Option.Rel Reordered root root' := by
  induction reordered generalizing language settings root with
  | refl => exact ⟨_, _, _, parts, rel_refl _, rel_refl _, rel_refl _⟩
  | trans _ _ first second =>
    obtain ⟨_, _, _, parts, languages, settings, roots⟩ := first parts
    obtain ⟨_, _, _, parts, languages', settings', roots'⟩ := second parts
    exact ⟨_, _, _, parts, rel_trans languages languages', rel_trans settings settings', rel_trans roots roots'⟩
  | exchange differ =>
    cases parts with
    | object language settings root =>
      exact ⟨_, _, _, .object (JsonForm.given_exchange differ language) (JsonForm.given_exchange differ settings)
        (JsonForm.given_exchange differ root), rel_refl _, rel_refl _, rel_refl _⟩
  | item reordered _ =>
    cases parts with
    | array short =>
      rw [List.length_append, List.length_cons] at short
      refine ⟨_, _, _, .array ?_, JsonForm.getElem?_replace reordered 0, JsonForm.getElem?_replace reordered 1,
        JsonForm.getElem?_replace reordered 2⟩
      rwa [List.length_append, List.length_cons]
  | field reordered _ =>
    cases parts with
    | object language settings root =>
      obtain ⟨_, language, languages⟩ := JsonForm.given_replace reordered language
      obtain ⟨_, settings, sets⟩ := JsonForm.given_replace reordered settings
      obtain ⟨_, root, roots⟩ := JsonForm.given_replace reordered root
      exact ⟨_, _, _, .object language settings root, languages, sets, roots⟩

-- The order of fields with different keys does not matter.
theorem ofForm?_of_reordered (reordered : Reordered form other) (denotes : form.Denotes) :
    ofForm? form = ofForm? other := by
  have read {form other : JsonForm} (reordered : Reordered form other) (denotes : form.Denotes) {snapshot : Snapshot}
      (read : ofForm? form = some snapshot) : ofForm? other = some snapshot := by
    obtain ⟨language, settings, root, parts⟩ := exists_hasParts read
    obtain ⟨_, _, _, changed, languages, sets, roots⟩ := parts.reordered reordered
    rw [ofForm?_of_hasParts denotes parts, ofParts?_eq_some_iff] at read
    rw [ofForm?_of_hasParts ((JsonForm.denotes_of_reordered reordered).mp denotes) changed, ofParts?_eq_some_iff]
    rwa [← partValue?_of_rel (fun reordered => by rw [JsonForm.choice?_of_reordered reordered]) languages,
      ← partValue?_of_rel settingsOfForm?_of_reordered sets, ← partValue?_of_rel rootOfForm?_of_reordered roots]
  -- Reordering is symmetric, so one direction gives both.
  refine Option.ext fun snapshot => ⟨read reordered denotes, ?_⟩
  exact read reordered.symm ((JsonForm.denotes_of_reordered reordered).mp denotes)

/-- The fields of an object under the keys that a configuration knows. -/
def knownFields (fields : List (Option String × JsonForm)) : List (Option String × JsonForm) :=
  fields.filter fun field => field.1 ∈ keys.map some

theorem filter_knownFields (fields : List (Option String × JsonForm)) {key : String}
    (known : some key ∈ keys.map some) :
    (knownFields fields).filter (fun field => field.1 = some key) =
      fields.filter fun field => field.1 = some key := by
  rw [knownFields, List.filter_filter]
  refine List.filter_congr fun field _ => ?_
  by_cases keyed : field.1 = some key
  · rw [keyed, decide_eq_true known, Bool.and_true]
  · rw [decide_eq_false keyed, Bool.false_and]

theorem HasParts.of_knownFields {fields others : List (Option String × JsonForm)}
    (same : knownFields fields = knownFields others) {language settings root : Option JsonForm}
    (parts : HasParts (.object fields) language settings root) : HasParts (.object others) language settings root := by
  have given {key : String} (known : some key ∈ keys.map some) {part : Option JsonForm}
      (given : JsonForm.Given fields key part) : JsonForm.Given others key part := by
    rw [JsonForm.Given, ← filter_knownFields others known, ← same, filter_knownFields fields known]
    exact given
  cases parts with
  | object language settings root =>
    exact .object (given (by decide) language) (given (by decide) settings) (given (by decide) root)

-- Only the fields of an object matter that have one of the keys.
theorem ofForm?_of_knownFields {fields others : List (Option String × JsonForm)}
    (denotes : (JsonForm.object fields).Denotes) (otherDenotes : (JsonForm.object others).Denotes)
    (same : knownFields fields = knownFields others) : ofForm? (.object fields) = ofForm? (.object others) := by
  refine Option.ext fun snapshot => ⟨fun read => ?_, fun read => ?_⟩
  · obtain ⟨language, settings, root, held⟩ := exists_hasParts read
    rw [← read, ofForm?_of_hasParts denotes held, ofForm?_of_hasParts otherDenotes (held.of_knownFields same)]
  · obtain ⟨language, settings, root, held⟩ := exists_hasParts read
    rw [← read, ofForm?_of_hasParts otherDenotes held, ofForm?_of_hasParts denotes (held.of_knownFields same.symm)]

end Snapshot

end BslLint
