import BslLint.Check.Builtin
import BslLint.Proofs.Rule.Build

/-! What the built-in rules do with parameters. They decide about all of them before they change anything, and the same in
every state. The decision of each rule is a change of its state or an error, so that what they refuse leaves no trace. -/

set_option autoImplicit false

namespace BslLint

namespace Rule

variable {State : Type}

/-- What comes of a decision about parameters: the change is made, or the error is given and nothing changes. -/
def settle (decision : Except ParameterError (State → State)) (state : State) : Except ParameterError Unit × State :=
  match decision with
  | .ok change => (.ok (), change state)
  | .error error => (.error error, state)

theorem settle_eq_ok_iff {decision : Except ParameterError (State → State)} {fresh state : State} :
    settle decision fresh = (.ok (), state) ↔ ∃ change, decision = .ok change ∧ change fresh = state := by
  cases decision <;> simp [settle]

/-- Everything is decided before anything changes, and the same whatever the state. -/
def Settles (action : Configuring State Unit) (decision : Except ParameterError (State → State)) : Prop :=
  ∀ state, action.run.run state = settle decision state

theorem Settles.bind {Value : Type} {next : Value → Configuring State Unit}
    {decide : Value → Except ParameterError (State → State)} (follows : ∀ value, Settles (next value) (decide value))
    (outcome : Except ParameterError Value) : Settles (MonadExcept.ofExcept outcome >>= next) (outcome >>= decide) := by
  intro state
  cases outcome with
  | error error => rfl
  | ok value => exact follows value state

theorem settles_modify (change : State → State) : Settles (modify change) (.ok change) :=
  fun _ => rfl

theorem settles_pure : Settles (pure () : Configuring State Unit) (.ok id) :=
  fun _ => rfl

end Rule

namespace LineLength

def decision (parameters : Parameters) : Except ParameterError (LineLength → LineLength) := do
  let limit ← limit? parameters
  return fun rule => { rule with limit }

theorem settles (parameters : Parameters) : Rule.Settles (Rule.configure parameters) (decision parameters) :=
  .bind (fun _ => Rule.settles_modify _) _

end LineLength

namespace ServiceTag

def decision (parameters : Parameters) : Except ParameterError (ServiceTag → ServiceTag) := do
  parameters.onlyKnown [tagsKey]
  match ← parameters.nullable? tagsKey Json.asString? with
  | none => return id
  | some tags =>
    let pattern ← patternOf tags
    return fun rule => { rule with pattern }

theorem settles (parameters : Parameters) : Rule.Settles (Rule.configure parameters) (decision parameters) := by
  refine .bind (fun _ => .bind (fun tags => ?_) _) _
  cases tags with
  | none => exact Rule.settles_pure
  | some tags => exact .bind (fun _ => Rule.settles_modify _) _

end ServiceTag

namespace CommentedCode

def decision (parameters : Parameters) : Except ParameterError (CommentedCode → CommentedCode) := do
  parameters.onlyKnown [thresholdKey]
  match ← parameters.nullable? thresholdKey asDouble? with
  | none => return id
  | some value =>
    let threshold ← thresholdOf value
    return fun rule => { rule with threshold }

theorem settles (parameters : Parameters) : Rule.Settles (Rule.configure parameters) (decision parameters) := by
  refine .bind (fun _ => .bind (fun value => ?_) _) _
  cases value with
  | none => exact Rule.settles_pure
  | some value => exact .bind (fun _ => Rule.settles_modify _) _

end CommentedCode

namespace MagicNumber

def decision (parameters : Parameters) : Except ParameterError (MagicNumber → MagicNumber) := do
  parameters.onlyKnown [authorizedKey, indexesKey]
  let list ← parameters.nullable? authorizedKey Json.asString?
  let allowIndexes ← parameters.nullable? indexesKey Json.asBool?
  let allow (rule : MagicNumber) : MagicNumber := { rule with allowIndexes := allowIndexes.getD rule.allowIndexes }
  match list with
  | none => return allow
  | some list =>
    let authorized ← authorizedOf list
    return fun rule => allow { rule with authorized }

theorem settles (parameters : Parameters) : Rule.Settles (Rule.configure parameters) (decision parameters) := by
  refine .bind (fun _ => .bind (fun list => .bind (fun allowIndexes => ?_) _) _) _
  cases list with
  | none => cases allowIndexes <;> exact fun _ => rfl
  | some list =>
    refine .bind (fun authorized => ?_) _
    cases allowIndexes <;> exact fun _ => rfl

end MagicNumber

namespace BuiltinRule

def kind : BuiltinRule → Builtin
  | .lineLength _ => .lineLength
  | .serviceTag _ => .serviceTag
  | .yoLetter _ => .yoLetter
  | .modalWindow _ => .modalWindow
  | .magicNumber _ => .magicNumber
  | .commentedCode _ => .commentedCode
  | .directivePosition _ => .directivePosition

/-- The state that parameters lead to. Rules without parameters keep theirs whatever is given. -/
def decision (parameters : Parameters) : BuiltinRule → Except ParameterError BuiltinRule
  | .lineLength rule => (LineLength.decision parameters).map fun change => .lineLength (change rule)
  | .serviceTag rule => (ServiceTag.decision parameters).map fun change => .serviceTag (change rule)
  | .magicNumber rule => (MagicNumber.decision parameters).map fun change => .magicNumber (change rule)
  | .commentedCode rule => (CommentedCode.decision parameters).map fun change => .commentedCode (change rule)
  | rule => .ok rule

theorem run_configureAs {State : Type} [Rule State] {parameters : Parameters}
    {decision : Except ParameterError (State → State)} (settles : Rule.Settles (Rule.configure parameters) decision)
    (wrap : State → BuiltinRule) (rule : State) :
    (configureAs wrap rule parameters).run.run (wrap rule) =
      match decision.map fun change => wrap (change rule) with
      | .ok after => (.ok (), after)
      | .error error => (.error error, wrap rule) := by
  have run := settles rule
  unfold configureAs Rule.runConfigure
  rw [run]
  cases decision <;> rfl

theorem runConfigure_eq (parameters : Parameters) (rule : BuiltinRule) : Rule.runConfigure parameters rule =
    match decision parameters rule with
    | .ok after => (.ok (), after)
    | .error error => (.error error, rule) := by
  cases rule with
  | lineLength rule => exact run_configureAs (LineLength.settles parameters) .lineLength rule
  | serviceTag rule => exact run_configureAs (ServiceTag.settles parameters) .serviceTag rule
  | magicNumber rule => exact run_configureAs (MagicNumber.settles parameters) .magicNumber rule
  | commentedCode rule => exact run_configureAs (CommentedCode.settles parameters) .commentedCode rule
  | yoLetter _ | modalWindow _ | directivePosition _ => rfl

theorem runConfigure_eq_ok_iff {parameters : Parameters} {rule after : BuiltinRule} :
    Rule.runConfigure parameters rule = (.ok (), after) ↔ decision parameters rule = .ok after := by
  rw [runConfigure_eq]
  cases decision parameters rule <;> simp

-- Parameters are refused before anything changes.
theorem runConfigure_eq_error_iff {parameters : Parameters} {rule after : BuiltinRule} {error : ParameterError} :
    Rule.runConfigure parameters rule = (.error error, after) ↔ decision parameters rule = .error error ∧ after = rule := by
  rw [runConfigure_eq]
  cases decision parameters rule <;> simp [eq_comm]

theorem kind_of_decision {parameters : Parameters} {rule after : BuiltinRule}
    (accepted : decision parameters rule = .ok after) : after.kind = rule.kind := by
  cases rule with
  | lineLength _ | serviceTag _ | magicNumber _ | commentedCode _ =>
    obtain ⟨_, _, rfl⟩ := Except.of_map_ok accepted
    rfl
  | yoLetter _ | modalWindow _ | directivePosition _ =>
    cases accepted
    rfl

end BuiltinRule

namespace Builtin

def parameterKeys : Builtin → List String
  | .lineLength => [LineLength.limitKey]
  | .serviceTag => [ServiceTag.tagsKey]
  | .magicNumber => [MagicNumber.authorizedKey, MagicNumber.indexesKey]
  | .commentedCode => [CommentedCode.thresholdKey]
  | .yoLetter | .modalWindow | .directivePosition => []

def accepts (builtin : Builtin) (parameters : Parameters) : Bool :=
  (Rule.runConfigure parameters builtin.fresh).1.isOk

end Builtin

namespace BuiltinRule

variable {parameters : Parameters} {rule : BuiltinRule}

/-- Whether parameters are accepted does not depend on those that have been taken over before. -/
theorem isOk_decision (parameters : Parameters) (rule : BuiltinRule) :
    (decision parameters rule).isOk = rule.kind.accepts parameters := by
  have same {State : Type} (outcome : Except ParameterError (State → State)) (wrap : State → BuiltinRule)
      (state other : State) : (outcome.map fun change => wrap (change state)).isOk =
        (outcome.map fun change => wrap (change other)).isOk := by
    cases outcome <;> rfl
  have own : rule.kind.accepts parameters = (decision parameters rule.kind.fresh).isOk := by
    rw [Builtin.accepts, runConfigure_eq]
    cases decision parameters rule.kind.fresh <;> rfl
  rw [own]
  cases rule with
  | lineLength rule | serviceTag rule | magicNumber rule | commentedCode rule => exact same _ _ rule _
  | yoLetter _ | modalWindow _ | directivePosition _ => rfl

/-- A parameter that a rule does not know makes it refuse all of them. -/
theorem decision_of_unknown (some : rule.kind.parameterKeys ≠ [])
    (unknown : ∃ entry ∈ parameters, entry.1 ∉ rule.kind.parameterKeys) : decision parameters rule = .error .shape := by
  have refused : parameters.onlyKnown rule.kind.parameterKeys = .error .shape := by
    obtain ⟨entry, mem, new⟩ := unknown
    have other : ¬(parameters.all fun entry => rule.kind.parameterKeys.contains entry.1) = true := by
      rw [List.all_eq_true]
      exact fun all => new (List.contains_iff_mem.mp (all entry mem))
    rw [Parameters.onlyKnown, if_neg other]
  cases rule with
  | lineLength rule =>
    have limit : LineLength.limit? parameters = .error .shape := by
      rw [LineLength.limit?, show parameters.onlyKnown [LineLength.limitKey] = _ from refused]
      rfl
    rw [decision, LineLength.decision, limit]
    rfl
  | serviceTag rule =>
    rw [decision, ServiceTag.decision, show parameters.onlyKnown [ServiceTag.tagsKey] = _ from refused]
    rfl
  | magicNumber rule =>
    rw [decision, MagicNumber.decision,
      show parameters.onlyKnown [MagicNumber.authorizedKey, MagicNumber.indexesKey] = _ from refused]
    rfl
  | commentedCode rule =>
    rw [decision, CommentedCode.decision, show parameters.onlyKnown [CommentedCode.thresholdKey] = _ from refused]
    rfl
  | yoLetter _ | modalWindow _ | directivePosition _ => exact absurd rfl some

end BuiltinRule

/-- The state after parameters have been given one after another, be they accepted or refused. -/
def Rule.configuredAll {State : Type} [Rule State] (state : State) (history : List Parameters) : State :=
  history.foldl (fun state parameters => (Rule.runConfigure parameters state).2) state

namespace BuiltinRule

theorem kind_runConfigure (parameters : Parameters) (rule : BuiltinRule) :
    (Rule.runConfigure parameters rule).2.kind = rule.kind := by
  rw [runConfigure_eq]
  cases decided : decision parameters rule with
  | error error => rfl
  | ok after => exact kind_of_decision decided

theorem kind_configuredAll (rule : BuiltinRule) (history : List Parameters) :
    (Rule.configuredAll rule history).kind = rule.kind := by
  induction history generalizing rule with
  | nil => rfl
  | cons parameters history ih => exact (ih _).trans (kind_runConfigure parameters rule)

theorem configuredAll_filter_accepts (rule : BuiltinRule) (history : List Parameters) :
    Rule.configuredAll rule (history.filter rule.kind.accepts) = Rule.configuredAll rule history := by
  -- Whether a call is accepted depends on the kind of the rule alone, which no call changes.
  induction history generalizing rule with
  | nil => rfl
  | cons parameters history ih =>
    have rest := ih (Rule.runConfigure parameters rule).2
    rw [kind_runConfigure] at rest
    rw [List.filter_cons]
    split
    · exact rest
    · rename_i refused
      -- A call that is refused leaves the state that the others start from.
      have unchanged : (Rule.runConfigure parameters rule).2 = rule := by
        rw [← isOk_decision] at refused
        rw [runConfigure_eq]
        cases decided : decision parameters rule with
        | error error => rfl
        | ok after => exact absurd (by rw [decided]; rfl) refused
      rw [unchanged] at rest
      rw [rest, Rule.configuredAll, Rule.configuredAll, List.foldl_cons, unchanged]

end BuiltinRule

namespace Builtin

theorem kind_fresh (builtin : Builtin) : builtin.fresh.kind = builtin := by
  cases builtin <;> rfl

/-- Every parameter of a rule is known to it: there is a value that it accepts. -/
theorem accepts_parameter {builtin : Builtin} {key : String} (mem : key ∈ builtin.parameterKeys) :
    ∃ value, builtin.accepts [(key, value)] = true := by
  cases builtin with
  | lineLength =>
    obtain rfl := List.mem_singleton.mp mem
    exact ⟨.ofNat 1, by decide⟩
  | serviceTag | commentedCode =>
    obtain rfl := List.mem_singleton.mp mem
    exact ⟨.null, by decide⟩
  | magicNumber =>
    rcases List.mem_cons.mp mem with rfl | mem
    · exact ⟨.null, by decide⟩
    · obtain rfl := List.mem_singleton.mp mem
      exact ⟨.null, by decide⟩
  | yoLetter | modalWindow | directivePosition => cases mem

/-- The state of a rule after it has been given parameters one after another. -/
def reached (builtin : Builtin) (history : List Parameters) : BuiltinRule :=
  Rule.configuredAll builtin.fresh history

/-- Refused parameters leave a rule as it is, whatever has been accepted and refused before, so that only what was accepted
has made it what it is. A parameter that a rule does not know is refused together with all others. A fresh rule that goes on
after a refusal is the same as the one that takes its place. -/
theorem refused_unchanged (builtin : Builtin) (history : List Parameters) (parameters : Parameters) :
    (∀ error after, Rule.runConfigure parameters (builtin.reached history) = (.error error, after) →
      after = builtin.reached history) ∧
    builtin.reached history = builtin.reached (history.filter builtin.accepts) ∧
    (builtin.parameterKeys ≠ [] → (∃ entry ∈ parameters, entry.1 ∉ builtin.parameterKeys) →
      Rule.runConfigure parameters (builtin.reached history) = (.error .shape, builtin.reached history)) ∧
    ∀ error after, Rule.runConfigure parameters builtin.fresh = (.error error, after) →
      after = builtin.fresh ∧ Rule.configured builtin.fresh parameters = after := by
  have own : (builtin.reached history).kind = builtin :=
    (BuiltinRule.kind_configuredAll _ history).trans builtin.kind_fresh
  refine ⟨fun error after refused => ?_, ?_, fun some unknown => ?_, fun error after refused => ?_⟩
  · exact (BuiltinRule.runConfigure_eq_error_iff.mp refused).2
  · have accepted := BuiltinRule.configuredAll_filter_accepts builtin.fresh history
    rw [kind_fresh] at accepted
    exact accepted.symm
  · rw [← own] at some unknown
    exact BuiltinRule.runConfigure_eq_error_iff.mpr ⟨BuiltinRule.decision_of_unknown some unknown, rfl⟩
  · obtain ⟨_, rfl⟩ := BuiltinRule.runConfigure_eq_error_iff.mp refused
    rw [Rule.configured, refused]
    exact ⟨rfl, ite_self _⟩

/-- A list with an item that is no number, next to a parameter that could be taken over. -/
theorem refused_unchanged_badItem :
    let history : List Parameters :=
      [[(MagicNumber.indexesKey, .bool false)], [(MagicNumber.authorizedKey, .string "7,x")]]
    let parameters : Parameters := [(MagicNumber.indexesKey, .bool true), (MagicNumber.authorizedKey, .string "1,два")]
    let error : ParameterError := .value MagicNumber.authorizedKey "`два` is not a number"
    magicNumber.reached history = .magicNumber { MagicNumber.standard with allowIndexes := false } ∧
      ∃ after, Rule.runConfigure parameters (magicNumber.reached history) = (.error error, after) ∧
        after = magicNumber.reached history := by
  intro history parameters error
  have refused : (Rule.runConfigure parameters (magicNumber.reached history)).1 = .error error := by rfl
  exact ⟨by decide +kernel, _, Prod.ext refused rfl,
    (refused_unchanged magicNumber history parameters).1 error _ (Prod.ext refused rfl)⟩

end Builtin

end BslLint
