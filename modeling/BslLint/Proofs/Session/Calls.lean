import BslLint.Session

/-! What calls leave behind. Nothing of a session changes but the compatibility mode that it has found,
whether a call succeeds or fails. -/

set_option autoImplicit false

namespace BslLint

namespace Session

variable {State Answer Other : Type}

def OnlyDetects (run : SessionCall State Answer) : Prop :=
  ∀ session : Session State, ∃ detection, (session.call run).2 = { session with detection }

theorem onlyDetects_pure (answer : Answer) : OnlyDetects (pure answer : SessionCall State Answer) :=
  fun session => ⟨session.detection, rfl⟩

theorem onlyDetects_throw (error : SessionError) : OnlyDetects (throw error : SessionCall State Answer) :=
  fun session => ⟨session.detection, rfl⟩

theorem onlyDetects_get : OnlyDetects (get : SessionCall State (Session State)) :=
  fun session => ⟨session.detection, rfl⟩

theorem call_bind (session : Session State) (run : SessionCall State Answer)
    (next : Answer → SessionCall State Other) :
    session.call (run >>= next) = match session.call run with
      | (.ok answer, after) => after.call (next answer)
      | (.error error, after) => (.error error, after) := by
  change (run.run >>= ExceptT.bindCont next) session = _
  cases outcome : session.call run with
  | mk result after =>
    have first : run.run session = (result, after) := outcome
    cases result <;> simp only [bind, StateT.bind, first, ExceptT.bindCont] <;> rfl

theorem call_bind_ok {session after : Session State} {run : SessionCall State Answer} {answer : Answer}
    (first : session.call run = (.ok answer, after)) (next : Answer → SessionCall State Other) :
    session.call (run >>= next) = after.call (next answer) := by
  rw [call_bind, first]

theorem call_bind_error {session after : Session State} {run : SessionCall State Answer} {error : SessionError}
    (first : session.call run = (.error error, after)) (next : Answer → SessionCall State Other) :
    session.call (run >>= next) = (.error error, after) := by
  rw [call_bind, first]

theorem OnlyDetects.bind {run : SessionCall State Answer} {next : Answer → SessionCall State Other}
    (first : OnlyDetects run) (second : ∀ answer, OnlyDetects (next answer)) :
    OnlyDetects (run >>= next) := by
  intro session
  obtain ⟨detection, same⟩ := first session
  rw [call_bind]
  cases outcome : session.call run with
  | mk result after =>
    rw [outcome] at same
    cases same
    cases result with
    | error error => exact ⟨detection, rfl⟩
    | ok answer => exact second answer { session with detection }

theorem onlyDetects_modeFor (tree : FileTree) (snapshot : Snapshot) :
    OnlyDetects (modeFor tree snapshot : SessionCall State (Option CompatibilityMode)) :=
  fun _ => ⟨_, rfl⟩

theorem onlyDetects_contextWith (tree : FileTree) (path : Path) (snapshot : Snapshot) :
    OnlyDetects (contextWith tree path snapshot : SessionCall State (Option Context)) := by
  unfold contextWith
  split
  · exact onlyDetects_pure none
  · exact (onlyDetects_modeFor tree snapshot).bind fun mode => onlyDetects_pure _

theorem onlyDetects_source (tree : FileTree) (path : Path) :
    OnlyDetects (source tree path : SessionCall State String) := by
  unfold source
  split
  · exact onlyDetects_pure _
  · exact onlyDetects_throw _

theorem onlyDetects_mode (tree : FileTree) :
    OnlyDetects (mode tree : SessionCall State (Option CompatibilityMode)) :=
  onlyDetects_get.bind fun session => onlyDetects_modeFor tree session.snapshot

theorem onlyDetects_context (tree : FileTree) (path : Path) :
    OnlyDetects (context tree path : SessionCall State (Option Context)) :=
  onlyDetects_get.bind fun session => onlyDetects_contextWith tree path session.snapshot

section

variable [Rule State] (tree : FileTree)

theorem onlyDetects_analyzeOnly (only : Option (List String)) (path : Path) (content : String) :
    OnlyDetects (analyzeOnly tree only path content : SessionCall State (List Violation)) := by
  refine onlyDetects_get.bind fun session => ?_
  refine (onlyDetects_contextWith tree path session.snapshot).bind fun context => ?_
  cases context with
  | none => exact onlyDetects_throw _
  | some context => exact onlyDetects_pure _

theorem onlyDetects_runRule (code : String) (path : Path) (content : String) :
    OnlyDetects (runRule code path content : SessionCall State (List Violation)) := by
  unfold runRule
  split
  · exact onlyDetects_throw _
  · refine onlyDetects_get.bind fun session => ?_
    split
    · exact onlyDetects_pure _
    · exact onlyDetects_throw _

theorem onlyDetects_analyzeFile (path : Path) :
    OnlyDetects (analyzeFile tree path : SessionCall State (List Violation)) :=
  (onlyDetects_source tree path).bind fun content => onlyDetects_analyzeOnly tree none path content

theorem onlyDetects_reportFiles (only : Option (List String)) (report : Report) (paths : List Path) :
    OnlyDetects (reportFiles tree only report paths : SessionCall State Report) := by
  induction paths generalizing report with
  | nil => exact onlyDetects_pure report
  | cons path rest ih =>
    refine (onlyDetects_source tree path).bind fun content => ?_
    exact (onlyDetects_analyzeOnly tree only path content).bind fun violations => ih _

theorem onlyDetects_analyzeTree (path : Path) (options : TreeOptions) :
    OnlyDetects (analyzeTree tree path options : SessionCall State Report) := by
  unfold analyzeTree
  split
  · exact onlyDetects_throw _
  · exact onlyDetects_reportFiles tree options.rules .empty _

end

end Session

end BslLint
