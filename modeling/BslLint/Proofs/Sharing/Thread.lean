import BslLint.Proofs.Session.Analysis

/-! Calls of a session that several callers share. Such a call is the accesses that it makes one after the
other; between two of them the others have their turns. Left alone it does what the session's own call does. -/

set_option autoImplicit false

namespace BslLint

inductive Thread (Answer : Type) where
  | done (answer : Answer)
  /-- Looks at the files. -/
  | look (next : FileTree → Thread Answer)
  /-- Takes the edition in force. -/
  | take (next : Edition → Thread Answer)
  /-- Looks up the stored detection. -/
  | consult (next : Detection → Thread Answer)
  /-- Stores a detection. -/
  | keep (detection : Detection) (rest : Thread Answer)

namespace Thread

variable {Answer Other State : Type}

def bind : Thread Answer → (Answer → Thread Other) → Thread Other
  | .done answer, next => next answer
  | .look rest, next => .look fun tree => (rest tree).bind next
  | .take rest, next => .take fun edition => (rest edition).bind next
  | .consult rest, next => .consult fun detection => (rest detection).bind next
  | .keep detection rest, next => .keep detection (rest.bind next)

def turn (tree : FileTree) (session : Session State) :
    Thread Answer → Option (List Edition × Thread Answer × Session State)
  | .done _ => none
  | .look next => some ([], next tree, session)
  | .take next => some ([session.store.current], next session.store.current, session)
  | .consult next => some ([], next session.detection, session)
  | .keep detection rest => some ([], rest, { session with detection })

/-- A turn changes nothing of the session but the detection, and takes the edition in force or none. -/
theorem turn_some {tree : FileTree} {session after : Session State} {thread rest : Thread Answer}
    {took : List Edition} (turned : thread.turn tree session = some (took, rest, after)) :
    (∃ detection, after = { session with detection }) ∧ (took = [] ∨ took = [session.store.current]) := by
  cases thread with
  | done => cases turned
  | take next =>
    cases turned
    exact ⟨⟨session.detection, rfl⟩, .inr rfl⟩
  | keep detection =>
    cases turned
    exact ⟨⟨detection, rfl⟩, .inl rfl⟩
  | _ =>
    cases turned
    exact ⟨⟨session.detection, rfl⟩, .inl rfl⟩

theorem done_or_turn (tree : FileTree) (session : Session State) (thread : Thread Answer) :
    (∃ answer, thread = .done answer) ∨ ∃ outcome, thread.turn tree session = some outcome := by
  cases thread with
  | done answer => exact .inl ⟨answer, rfl⟩
  | _ => exact .inr ⟨_, rfl⟩

def run (tree : FileTree) : Thread Answer → Session State → Answer × Session State
  | .done answer, session => (answer, session)
  | .look next, session => (next tree).run tree session
  | .take next, session => (next session.store.current).run tree session
  | .consult next, session => (next session.detection).run tree session
  | .keep detection rest, session => rest.run tree { session with detection }

/-- Uses the stored detection if it is for the snapshot; if not, a new one is made and stored. -/
def modeFor (root : Path) (snapshot : Snapshot) : Thread (Option CompatibilityMode) :=
  .consult fun detection =>
    if detection.isFor snapshot then .done detection.mode
    else .look fun tree =>
      let detection := Detection.run tree root snapshot
      .keep detection (.done detection.mode)

section

variable [Rule State] (root : Path) (registry : Registry State)

def analyzeOnly (only : Option (List String)) (path : Path) (content : String) :
    Thread (Except SessionError (List Violation)) :=
  .take fun edition =>
    match FileType.ofPath? path with
    | none => .done (.error (.unsupportedFile path))
    | some fileType => (modeFor root edition.snapshot).bind fun mode =>
      .done (.ok (registry.analyze edition.snapshot ⟨fileType, mode⟩ only path content))

def reportFiles (only : Option (List String)) (report : Report) :
    List Path → Thread (Except SessionError Report)
  | [] => .done (.ok report)
  | path :: paths => .look fun tree =>
    match tree.readText path with
    | .error _ => .done (.error (.unreadable path))
    | .ok content => (analyzeOnly root registry only path content).bind fun
      | .error error => .done (.error error)
      | .ok violations => reportFiles only (report.push path violations) paths

def analyzeTree (path : Path) (options : TreeOptions) : Thread (Except SessionError Report) :=
  .look fun tree =>
    match Discovery.files tree path options.exclude with
    | .error error => .done (.error (.ofDiscovery error))
    | .ok paths => reportFiles root registry options.rules .empty paths

end

variable (tree : FileTree) (session : Session State)

theorem run_bind (thread : Thread Answer) (next : Answer → Thread Other) :
    (thread.bind next).run tree session =
      (next (thread.run tree session).1).run tree (thread.run tree session).2 := by
  induction thread generalizing session with
  | done => rfl
  | look rest ih => exact ih tree session
  | take rest ih => exact ih session.store.current session
  | consult rest ih => exact ih session.detection session
  | keep detection rest ih => exact ih { session with detection }

theorem run_modeFor (snapshot : Snapshot) :
    (modeFor session.root snapshot).run tree session =
      let detection := session.detection.renew tree session.root snapshot
      (detection.mode, { session with detection }) := by
  unfold Detection.renew modeFor
  simp only [run]
  split <;> rfl

theorem call_modeFor (snapshot : Snapshot) :
    session.call (Session.modeFor tree snapshot) =
      let (mode, after) := (modeFor session.root snapshot).run tree session
      (.ok mode, after) := by
  rw [run_modeFor]
  rfl

section

variable [Rule State] (only : Option (List String))

theorem call_analyzeOnly (path : Path) (content : String) :
    session.call (Session.analyzeOnly tree only path content) =
      (analyzeOnly session.root session.registry only path content).run tree session := by
  unfold analyzeOnly
  cases supported : FileType.ofPath? path with
  | none =>
    rw [Session.call_analyzeOnly_unsupported tree session only path content supported]
    rfl
  | some fileType =>
    rw [Session.call_analyzeOnly_supported tree session only path content supported]
    simp only [run, run_bind, run_modeFor]
    rfl

theorem call_reportFiles (report : Report) (paths : List Path) :
    session.call (Session.reportFiles tree only report paths) =
      (reportFiles session.root session.registry only report paths).run tree session := by
  induction paths generalizing report session with
  | nil => rfl
  | cons path paths ih =>
    unfold Session.reportFiles reportFiles
    rw [Session.call_bind]
    simp only [run]
    cases read : tree.readText path with
    | error error =>
      rw [Session.call_source_error tree session path read]
      rfl
    | ok content =>
      -- The session after one file has the same root and the same rules for the other files.
      obtain ⟨detection, after⟩ := Session.onlyDetects_analyzeOnly tree only path content session
      rw [Session.call_source_ok tree session path content read]
      simp only
      rw [Session.call_bind, run_bind, ← call_analyzeOnly]
      cases outcome : session.call (Session.analyzeOnly tree only path content) with
      | mk result next =>
        rw [outcome] at after
        cases after
        cases result with
        | error error => rfl
        | ok violations => exact ih { session with detection } (report.push path violations)

theorem call_analyzeTree (path : Path) (options : TreeOptions) :
    session.call (Session.analyzeTree tree path options) =
      (analyzeTree session.root session.registry path options).run tree session := by
  unfold Session.analyzeTree analyzeTree
  simp only [run]
  cases Discovery.files tree path options.exclude with
  | error error => rfl
  | ok paths => exact call_reportFiles tree session options.rules .empty paths

end

end Thread

end BslLint
