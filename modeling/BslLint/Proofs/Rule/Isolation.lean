import BslLint.Check.Registry
import BslLint.Proofs.Rule.Instances
import BslLint.Proofs.Session.Analysis
import Mathlib.Data.List.Basic

/-! Rules do not disturb one another. What a configuration says about one rule decides nothing about what
the other rules report, nor about the order of their violations. -/

set_option autoImplicit false

namespace BslLint

namespace Snapshot

/-- Two snapshots that differ at most in what they say about one rule. -/
structure SameBeside (code : String) (left right : Snapshot) : Prop where
  language : left.language = right.language
  configurationRoot : left.configurationRoot = right.configurationRoot
  setting : ∀ other, other ≠ code → left.setting? other = right.setting? other

theorem sameBeside_withRule (snapshot : Snapshot) (code : String) (setting : Setting) :
    SameBeside code snapshot (snapshot.withRule code setting) where
  language := rfl
  configurationRoot := rfl
  setting _ differs := (setting?_withRule_of_ne snapshot setting (Ne.symm differs)).symm

end Snapshot

def Violation.beside (code : String) (violations : List Violation) : List Violation :=
  violations.filter fun violation => violation.code != code

theorem Violation.beside_inOrder (code : String) (violations : List Violation) :
    beside code (inOrder violations) = inOrder (beside code violations) :=
  filter_inOrder _ violations

variable {State : Type} [Rule State] {code : String}

theorem beside_flatMap_run (rules : List (RuleInstance State)) (document : Document) :
    Violation.beside code (rules.flatMap fun rule => rule.run document) =
      (rules.filter fun rule => rule.descriptor.code != code).flatMap fun rule => rule.run document :=
  filter_flatMap_run (· != code) rules document

section

variable {left right : Snapshot} (same : left.SameBeside code right)

include same

theorem Descriptor.activation_sameBeside {descriptor : Descriptor} (other : descriptor.code ≠ code) :
    descriptor.activation left = descriptor.activation right := by
  simp only [activation, same.setting descriptor.code other]

namespace Registry

variable (registry : Registry State)

theorem instance?_sameBeside (context : Context) {descriptor : Descriptor} (other : descriptor.code ≠ code) :
    registry.instance? context left descriptor = registry.instance? context right descriptor := by
  unfold instance? Descriptor.isSelected instantiate
  rw [same.language, Descriptor.activation_sameBeside same other]

theorem instances_sameBeside (context : Context) :
    (registry.instances context left).filter (fun rule => rule.descriptor.code != code) =
      (registry.instances context right).filter fun rule => rule.descriptor.code != code := by
  rw [instances_eq_filterMap, instances_eq_filterMap, List.filter_filterMap, List.filter_filterMap]
  apply List.filterMap_congr
  intro descriptor _
  by_cases own : descriptor.code = code
  · -- Both instances, if there are any, carry the code and are left out.
    have leftOut (snapshot : Snapshot) : (registry.instance? context snapshot descriptor).filter
        (fun rule => rule.descriptor.code != code) = none := by
      rw [Option.filter_eq_none_iff]
      intro rule found
      simp [registry.descriptor_of_instance? found, own]
    rw [leftOut left, leftOut right]
  · rw [registry.instance?_sameBeside same context own]

theorem analyze_sameBeside (context : Context) (only : Option (List String)) (path : Path) (content : String) :
    Violation.beside code (registry.analyze left context only path content) =
      Violation.beside code (registry.analyze right context only path content) := by
  simp only [analyze, Violation.beside_inOrder, beside_flatMap_run]
  -- The restriction of the run and the omission of the rule are independent filters.
  rw [List.filter_comm, registry.instances_sameBeside same context, List.filter_comm]

end Registry

end

/-- Of what a session reports on a file, a setting decides only what carries the code it is stored under.
This holds of every registry, also of one that repeats codes. Files of no known type are refused alike. -/
theorem Session.analyze_isolated (session : Session State) (tree : FileTree) (path : Path)
    (content : String) {code : String} {left right : Store}
    (same : left.current.snapshot.SameBeside code right.current.snapshot) :
    (({ session with store := left }.call (analyze tree path content)).1).map (Violation.beside code) =
      (({ session with store := right }.call (analyze tree path content)).1).map
        (Violation.beside code) ∧
    ∀ fileType, FileType.ofPath? path = some fileType →
      ∃ reported, ({ session with store := left }.call (analyze tree path content)).1 = .ok reported := by
  unfold analyze
  cases known : FileType.ofPath? path with
  | none =>
    rw [call_analyzeOnly_unsupported _ _ _ _ _ known, call_analyzeOnly_unsupported _ _ _ _ _ known]
    exact ⟨rfl, nofun⟩
  | some fileType =>
    rw [call_analyzeOnly_supported _ _ _ _ _ known, call_analyzeOnly_supported _ _ _ _ _ known]
    -- The compatibility mode is looked for below the configuration root, which the rule's setting leaves alone.
    have sameContext : { session with store := left }.contextOf tree fileType =
        { session with store := right }.contextOf tree fileType := by
      unfold contextOf renewed
      exact congrArg (fun detection => Context.mk fileType (Detection.mode detection))
        (Detection.renew_congr tree session.root session.detection same.configurationRoot)
    rw [sameContext]
    refine ⟨?_, fun _ _ => ⟨_, rfl⟩⟩
    exact congrArg Except.ok (session.registry.analyze_sameBeside same _ none path content)

/-- Of two settings of one rule, the first is used and the second refused. The findings of the others stay. -/
theorem Session.analyze_isolated_refusedLimit :
    let setting (limit : Nat) := Store.opened (Snapshot.standard.withRule (Named.name Builtin.lineLength)
      (.parameters [(LineLength.limitKey, .ofNat limit)]))
    let session : Session BuiltinRule :=
      ⟨⟨"/ws"⟩, ⟨"/ws/c.json"⟩, Builtin.registry, setting 10, ⟨none, none⟩, none⟩
    let content := "Если Ёж > 42 Тогда"
    let found (store : Store) := (session.registry.instances ⟨.bsl, none⟩ store.current.snapshot).flatMap fun rule =>
      (rule.run (.ofText ⟨"m.bsl"⟩ .bsl content)).map Violation.code
    (setting 10).current.snapshot.SameBeside (Named.name Builtin.lineLength) (setting 0).current.snapshot ∧
      found (setting 10) = ["LineLength", "YoLetterUsage", "MagicNumber"] ∧
      found (setting 0) = ["YoLetterUsage", "MagicNumber"] ∧
      (({ session with store := setting 10 }.call (analyze .empty ⟨"m.bsl"⟩ content)).1).map
          (Violation.beside (Named.name Builtin.lineLength)) =
        (({ session with store := setting 0 }.call (analyze .empty ⟨"m.bsl"⟩ content)).1).map
          (Violation.beside (Named.name Builtin.lineLength)) ∧
      ∃ reported,
        ({ session with store := setting 10 }.call (analyze .empty ⟨"m.bsl"⟩ content)).1 = .ok reported := by
  intro setting session content found
  have same : (setting 10).current.snapshot.SameBeside (Named.name Builtin.lineLength)
      (setting 0).current.snapshot := Snapshot.sameBeside_withRule _ _ _
  have isolated := Session.analyze_isolated session .empty ⟨"m.bsl"⟩ content same
  exact ⟨same, by decide +kernel, by decide +kernel, isolated.1, isolated.2 .bsl (by decide +kernel)⟩

end BslLint
