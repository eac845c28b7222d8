import BslLint.Proofs.Session.Calls

/-! What the calls of a session that analyze one document answer, and what they leave behind. -/

set_option autoImplicit false

namespace BslLint

/-- Of a snapshot, only the configuration root matters to the detection of the compatibility mode. -/
theorem Detection.renew_congr (tree : FileTree) (root : Path) (detection : Detection) {left right : Snapshot}
    (same : left.configurationRoot = right.configurationRoot) :
    detection.renew tree root left = detection.renew tree root right := by
  unfold renew isFor run
  rw [same]

namespace Session

variable {State : Type} (tree : FileTree) (session : Session State)

/-- The session after it has looked for the compatibility mode of the snapshot in force. -/
def renewed : Session State :=
  { session with detection := session.detection.renew tree session.root session.snapshot }

def contextOf (fileType : FileType) : Context :=
  ⟨fileType, (session.renewed tree).detection.mode⟩

variable (only : Option (List String)) (path : Path) (content : String)

theorem call_source_ok (read : tree.readText path = .ok content) :
    session.call (source tree path) = (.ok content, session) := by
  simp only [source, read]
  rfl

theorem call_source_error {error : FileError} (read : tree.readText path = .error error) :
    session.call (source tree path) = (.error (.unreadable path), session) := by
  simp only [source, read]
  rfl

variable (snapshot : Snapshot)

/-- A session with the same root and the same rules that has been opened with a snapshot. -/
def under : Session State :=
  { session with store := .opened snapshot, detection := .run tree session.root snapshot, watcher := none }

theorem contextOf_under (fileType : FileType) :
    (session.under tree snapshot).contextOf tree fileType =
      ⟨fileType, Metadata.mode? tree session.root snapshot.configurationRoot⟩ := by
  unfold contextOf renewed Detection.renew
  split <;> rfl

variable [Rule State]

theorem call_analyzeOnly_unsupported (unsupported : FileType.ofPath? path = none) :
    session.call (analyzeOnly tree only path content) = (.error (.unsupportedFile path), session) := by
  simp only [analyzeOnly, contextWith, unsupported]
  rfl

theorem call_analyzeOnly_supported {fileType : FileType} (supported : FileType.ofPath? path = some fileType) :
    session.call (analyzeOnly tree only path content) =
      (.ok (session.registry.analyze session.snapshot (session.contextOf tree fileType) only path content),
        session.renewed tree) := by
  simp only [analyzeOnly, contextWith, supported]
  rfl

theorem call_analyzeOnly_under {fileType : FileType} (supported : FileType.ofPath? path = some fileType) :
    ((session.under tree snapshot).call (analyzeOnly tree only path content)).1 =
      .ok (session.registry.analyze snapshot
        ⟨fileType, Metadata.mode? tree session.root snapshot.configurationRoot⟩ only path content) := by
  rw [call_analyzeOnly_supported tree _ only path content supported, contextOf_under]
  rfl

variable {path content}

theorem call_analyzeFile_unreadable {error : FileError} (read : tree.readText path = .error error) :
    session.call (analyzeFile tree path) = (.error (.unreadable path), session) :=
  call_bind_error (call_source_error tree session path read) _

theorem call_analyzeFile (read : tree.readText path = .ok content) :
    session.call (analyzeFile tree path) = session.call (analyzeOnly tree none path content) :=
  call_bind_ok (call_source_ok tree session path content read) _

theorem call_analyzeFile_under (read : tree.readText path = .ok content) {fileType : FileType}
    (supported : FileType.ofPath? path = some fileType) :
    ((session.under tree snapshot).call (analyzeFile tree path)).1 =
      .ok (session.registry.analyze snapshot
        ⟨fileType, Metadata.mode? tree session.root snapshot.configurationRoot⟩ none path content) := by
  rw [call_analyzeFile tree _ read, call_analyzeOnly_under tree session none path content snapshot supported]

-- What a run does with the first of its files, and how it goes on.
theorem call_reportFiles_cons (path : Path) (paths : List Path) (report : Report) :
    session.call (reportFiles tree only report (path :: paths)) =
      match tree.readText path, FileType.ofPath? path with
      | .error _, _ => (.error (.unreadable path), session)
      | .ok _, none => (.error (.unsupportedFile path), session)
      | .ok content, some fileType =>
        (session.renewed tree).call (reportFiles tree only (report.push path
          (session.registry.analyze session.snapshot (session.contextOf tree fileType) only path content)) paths) := by
  rw [reportFiles]
  cases read : tree.readText path with
  | error error => rw [call_bind_error (call_source_error tree session path read)]
  | ok content =>
    rw [call_bind_ok (call_source_ok tree session path content read)]
    cases supported : FileType.ofPath? path with
    | none => rw [call_bind_error (call_analyzeOnly_unsupported tree session only path content supported)]
    | some fileType => rw [call_bind_ok (call_analyzeOnly_supported tree session only path content supported)]

end Session

end BslLint
