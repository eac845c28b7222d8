import BslLint.Configuration.Agreement
import BslLint.Configuration.Reader
import BslLint.Configuration.Store
import BslLint.Named

/-! Watching the configuration file. A watcher is a machine that moves in small steps, so that changes of
the file, publications and the watcher itself may interleave in any order. -/

set_option autoImplicit false

namespace BslLint

inductive WatcherState where
  /-- Created, and not yet watching. -/
  | idle
  | watching
  /-- Loading a changed file. -/
  | reloading
  | stopped
  deriving DecidableEq, Repr

instance : Named WatcherState where
  all := [.idle, .watching, .reloading, .stopped]
  name
    | .idle => "Idle"
    | .watching => "Watching"
    | .reloading => "Reloading"
    | .stopped => "Stopped"

inductive Notice where
  /-- Files of these names were created, changed or removed. -/
  | changed (names : List String)
  /-- Something else happened to files of these names. -/
  | touched (names : List String)
  | failed
  deriving DecidableEq, Repr

/-- Takes over what a reload has read. A file that does not load changes nothing, nor does one that says
what is already in force. -/
def Store.accept (store : Store) (loaded : Except ConfigurationError Snapshot) : Store :=
  match loaded with
  | .ok snapshot => if store.current.snapshot.agrees snapshot then store else store.publish snapshot
  | .error _ => store

/-- A watcher of a file: the state it shows, the directory it watches, the notices it has not taken yet,
oldest first, what its latest reload has read, whether there will be more notices, and whether it has been
asked to stop. -/
structure Watcher where
  path : Path
  state : WatcherState
  directory : Option Place
  notices : List Notice
  loaded : Option (Except ConfigurationError Snapshot)
  closed : Bool
  stopRequested : Bool
  deriving Repr

namespace Watcher

def ofPath (path : Path) : Watcher :=
  ⟨path, .idle, none, [], none, false, false⟩

/-- The directory to watch. The path has to name a file in an existing directory. -/
def watchable? (tree : FileTree) (path : Path) : Option Place := do
  let _ ← path.fileName?
  let parent ← path.parent?
  (tree.locate (if parent.text = "" then ⟨"."⟩ else parent)).toOption

def concerns (path : Path) (notice : Notice) : Bool :=
  match notice, path.fileName? with
  | .changed names, some name => names.contains name
  | _, _ => false

inductive Action where
  /-- Sets up the watch. -/
  | start
  /-- Takes the oldest notice, or finds that there will be none. -/
  | take
  /-- Reads the file for a reload. -/
  | read
  /-- Ends a reload with what was read. -/
  | finish
  /-- Follows a request to stop. -/
  | stop
  deriving DecidableEq, Repr

def stateAfter (path : Path) (notice : Notice) : WatcherState :=
  match notice with
  | .failed => .stopped
  | notice => if concerns path notice then .reloading else .watching

def started (tree : FileTree) (watcher : Watcher) : Watcher :=
  match watchable? tree watcher.path with
  | some directory => { watcher with state := .watching, directory := some directory }
  | none => { watcher with state := .stopped }

def step (tree : FileTree) (action : Action) (watcher : Watcher) (store : Store) : Option (Watcher × Store) :=
  match action, watcher.state with
  | .start, .idle => some (watcher.started tree, store)
  | .take, .watching =>
    match watcher.notices with
    | notice :: rest =>
      -- A reload that follows has to read the file anew.
      some ({ watcher with notices := rest, loaded := none, state := stateAfter watcher.path notice }, store)
    | [] => if watcher.closed then some ({ watcher with state := .stopped }, store) else none
  | .read, .reloading =>
    match watcher.loaded with
    | none => some ({ watcher with loaded := some (Snapshot.load tree watcher.path) }, store)
    | some _ => none
  | .finish, .reloading =>
    watcher.loaded.map fun loaded => ({ watcher with state := .watching }, store.accept loaded)
  | .stop, .watching =>
    if watcher.stopRequested then some ({ watcher with state := .stopped }, store) else none
  | _, _ => none

def receive (watcher : Watcher) (notice : Notice) : Watcher :=
  { watcher with notices := watcher.notices ++ [notice] }

def requestStop (watcher : Watcher) : Watcher :=
  { watcher with stopRequested := true }

/-- A file was written or removed. Only the watched directory reports it. -/
def observe (watcher : Watcher) (place : Place) : Watcher :=
  match watcher.state, place.getLast? with
  | .watching, some name | .reloading, some name =>
    if watcher.directory = some place.dropLast then watcher.receive (.changed [name]) else watcher
  | _, _ => watcher

def nextAction? (watcher : Watcher) : Option Action :=
  match watcher.state with
  | .idle => some .start
  | .reloading => some (if watcher.loaded.isNone then .read else .finish)
  | .watching =>
    -- Notices that are there already come before a request to stop.
    if watcher.notices ≠ [] ∨ watcher.closed then some .take
    else if watcher.stopRequested then some .stop
    else none
  | .stopped => none

def proceed (tree : FileTree) (steps : Nat) (watcher : Watcher) (store : Store) : Watcher × Store :=
  match steps with
  | 0 => (watcher, store)
  | steps + 1 =>
    match watcher.nextAction?.bind fun action => watcher.step tree action store with
    | some (watcher, store) => proceed tree steps watcher store
    | none => (watcher, store)

/-- How many steps a watcher makes at most before it waits: a start, three a notice, the rest of a reload and
a stop. -/
def stepBound (watcher : Watcher) : Nat :=
  3 * watcher.notices.length + 4

def settle (tree : FileTree) (watcher : Watcher) (store : Store) : Watcher × Store :=
  watcher.proceed tree watcher.stepBound store

def shutdown (tree : FileTree) (watcher : Watcher) (store : Store) : Watcher × Store :=
  watcher.requestStop.settle tree store

/-- What a caller learns who waits for the start: the state that is shown, once it is not the first. -/
def startOutcome? (watcher : Watcher) : Option WatcherState :=
  if watcher.state = .idle then none else some watcher.state

end Watcher

end BslLint
