import BslLint.Configuration.Watcher
import BslLint.Report
import BslLint.Rule.Analysis
import BslLint.Workspace.Discovery
import BslLint.Workspace.Metadata

/-! Sessions: a workspace with its live configuration, and the rules that run against its files. A session
takes the snapshot in force once for each document. -/

set_option autoImplicit false

namespace BslLint

inductive SessionError where
  | configuration (error : ConfigurationError)
  | unknownRule (error : UnknownRule)
  | unreadable (path : Path)
  | unsupportedFile (path : Path)
  | walk
  | pattern (error : InvalidExclude)
  deriving DecidableEq, Repr

namespace SessionError

instance : Failure SessionError where
  code
    | .configuration error => Failure.code error
    | .unknownRule error => Failure.code error
    | .unreadable _ => "bsl_analyzer::session::io"
    | .unsupportedFile _ => "bsl_analyzer::session::unsupported_file"
    | .walk => "bsl_analyzer::session::walk"
    | .pattern _ => "bsl_analyzer::session::glob"
  help?
    | .configuration error => Failure.help? error
    | .unknownRule error => Failure.help? error
    | .unsupportedFile _ => some "only .bsl and .os files can be analyzed"
    | _ => none

def message? : SessionError → Option String
  | .unknownRule error => some error.message
  | .unsupportedFile path => some ("unsupported file type: " ++ path.text)
  | _ => none

def ofDiscovery : DiscoveryError → SessionError
  | .walk => .walk
  | .pattern error => .pattern error

end SessionError

structure Detection where
  configurationRoot : Option Path
  mode : Option CompatibilityMode
  deriving DecidableEq, Repr

namespace Detection

def run (tree : FileTree) (root : Path) (snapshot : Snapshot) : Detection :=
  ⟨snapshot.configurationRoot, Metadata.mode? tree root snapshot.configurationRoot⟩

/-- Whether a detection holds for a snapshot: they have the same configuration root. -/
def isFor (detection : Detection) (snapshot : Snapshot) : Bool :=
  detection.configurationRoot.map Path.components == snapshot.configurationRoot.map Path.components

def renew (tree : FileTree) (root : Path) (snapshot : Snapshot) (detection : Detection) : Detection :=
  if detection.isFor snapshot then detection else run tree root snapshot

end Detection

structure Session (State : Type) where
  root : Path
  configurationPath : Path
  registry : Registry State
  store : Store
  detection : Detection
  watcher : Option Watcher

structure TreeOptions where
  /-- Patterns of the paths to leave out, relative to the directory. -/
  exclude : List String
  /-- The rules to run, among the enabled ones. -/
  rules : Option (List String)
  deriving DecidableEq, Repr

/-- What a session does for a caller. The detection of the compatibility mode may change on the way, also
where the call fails. -/
abbrev SessionCall (State : Type) := ExceptT SessionError (StateM (Session State))

namespace Session

variable {State : Type}

def configurationPathFor (root : Path) (path : Option Path) : Path :=
  root.join (path.getD ⟨Snapshot.fileName⟩)

def openAt (tree : FileTree) (root : Path) (configurationPath : Option Path) (registry : Registry State) :
    Except SessionError (Session State) :=
  let configurationPath := configurationPathFor root configurationPath
  match Snapshot.load tree configurationPath with
  | .error error => .error (.configuration error)
  | .ok snapshot =>
    .ok {
      root
      configurationPath
      registry
      store := Store.opened snapshot
      detection := Detection.run tree root snapshot
      watcher := none }

def snapshot (session : Session State) : Snapshot :=
  session.store.current.snapshot

def startWatching (session : Session State) : Session State :=
  match session.watcher with
  | some _ => session
  | none => { session with watcher := some (Watcher.ofPath session.configurationPath) }

def watcherState (session : Session State) : WatcherState :=
  match session.watcher with
  | some watcher => watcher.state
  | none => .idle

def settle (tree : FileTree) (session : Session State) : Session State :=
  match session.watcher with
  | none => session
  | some watcher =>
    let (watcher, store) := watcher.settle tree session.store
    { session with watcher := some watcher, store }

def observe (place : Place) (session : Session State) : Session State :=
  { session with watcher := session.watcher.map fun watcher => watcher.observe place }

def shutdown (tree : FileTree) (session : Session State) : Option WatcherState × Session State :=
  match session.watcher with
  | none => (none, session)
  | some watcher =>
    let (watcher, store) := watcher.shutdown tree session.store
    (some watcher.state, { session with watcher := none, store })

def call {Answer : Type} (session : Session State) (run : SessionCall State Answer) :
    Except SessionError Answer × Session State :=
  (run.run).run session

def modeFor (tree : FileTree) (snapshot : Snapshot) : SessionCall State (Option CompatibilityMode) := do
  modify fun session => { session with detection := session.detection.renew tree session.root snapshot }
  return (← get).detection.mode

def mode (tree : FileTree) : SessionCall State (Option CompatibilityMode) := do
  modeFor tree (← get).snapshot

/-- What rules are selected by for a file; unsupported files have no context. -/
def contextWith (tree : FileTree) (path : Path) (snapshot : Snapshot) : SessionCall State (Option Context) :=
  match FileType.ofPath? path with
  | none => return none
  | some fileType => return some ⟨fileType, ← modeFor tree snapshot⟩

def context (tree : FileTree) (path : Path) : SessionCall State (Option Context) := do
  contextWith tree path (← get).snapshot

variable [Rule State]

-- Runs the selected rules on a document, perhaps limited to some rules.
def analyzeOnly (tree : FileTree) (only : Option (List String)) (path : Path) (content : String) :
    SessionCall State (List Violation) := do
  let session ← get
  match ← contextWith tree path session.snapshot with
  | none => throw (.unsupportedFile path)
  | some context => return session.registry.analyze session.snapshot context only path content

def analyze (tree : FileTree) (path : Path) (content : String) : SessionCall State (List Violation) :=
  analyzeOnly tree none path content

def runRule (code : String) (path : Path) (content : String) : SessionCall State (List Violation) := do
  match FileType.ofPath? path with
  | none => throw (.unsupportedFile path)
  | some fileType =>
    let session ← get
    match session.registry.runRule session.snapshot code path fileType content with
    | .ok violations => return violations
    | .error error => throw (.unknownRule error)

def source (tree : FileTree) (path : Path) : SessionCall State String :=
  match tree.readText path with
  | .ok content => return content
  | .error _ => throw (.unreadable path)

def analyzeFile (tree : FileTree) (path : Path) : SessionCall State (List Violation) := do
  analyze tree path (← source tree path)

def reportFiles (tree : FileTree) (only : Option (List String)) (report : Report) :
    List Path → SessionCall State Report
  | [] => return report
  | path :: paths => do
    let violations ← analyzeOnly tree only path (← source tree path)
    reportFiles tree only (report.push path violations) paths

def analyzeTree (tree : FileTree) (path : Path) (options : TreeOptions) : SessionCall State Report :=
  match Discovery.files tree path options.exclude with
  | .error error => throw (.ofDiscovery error)
  | .ok paths => reportFiles tree options.rules .empty paths

end Session

end BslLint
