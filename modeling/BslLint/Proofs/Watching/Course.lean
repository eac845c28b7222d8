import BslLint.Proofs.Execution
import BslLint.Proofs.Watching.Settling

/-! What a watcher makes known in the course of its life: the states that it shows, and the editions that it publishes.
Meanwhile files change, notices come or end, others publish, and the watcher is asked to stop, in any order. -/

set_option autoImplicit false

namespace BslLint.Watcher.Course

inductive Mark where
  | shown (state : WatcherState)
  | published (edition : Edition)
  deriving DecidableEq, Repr

/-- What becomes known by a move, in this order: the editions that it publishes, and the state after it, if that is
another one. -/
def marks (watcher : Watcher) (store : Store) (next : Watcher × Store) : List Mark :=
  (next.2.announced.drop store.announced.length).map .published ++
    if next.1.state = watcher.state then [] else [.shown next.1.state]

inductive Event where
  /-- The watcher makes a move, or fails to set up its watch. -/
  | moved (marks : List Mark)
  | noticed (notice : Notice)
  /-- There will be no more notices. -/
  | closed
  /-- The watcher is asked to stop, or nobody holds it any more. -/
  | asked
  | other

/-- The steps of a watcher among files and publications that others change as they like. -/
inductive Step : World → Event → World → Prop where
  | move {tree : FileTree} {watcher : Watcher} {store : Store} {action : Action} {next : Watcher × Store} :
      watcher.step tree action store = some next →
      Step ⟨tree, watcher, store⟩ (.moved (marks watcher store next)) ⟨tree, next.1, next.2⟩
  /-- The system refuses the watch, although the directory is there. -/
  | refuse {tree : FileTree} {watcher : Watcher} {store : Store} : watcher.state = .idle →
      Step ⟨tree, watcher, store⟩ (.moved [.shown .stopped]) ⟨tree, { watcher with state := .stopped }, store⟩
  | notice {tree : FileTree} {watcher : Watcher} {store : Store} (notice : Notice) :
      Step ⟨tree, watcher, store⟩ (.noticed notice) ⟨tree, watcher.receive notice, store⟩
  | close {tree : FileTree} {watcher : Watcher} {store : Store} :
      Step ⟨tree, watcher, store⟩ .closed ⟨tree, { watcher with closed := true }, store⟩
  | ask {tree : FileTree} {watcher : Watcher} {store : Store} :
      Step ⟨tree, watcher, store⟩ .asked ⟨tree, watcher.requestStop, store⟩
  /-- The files and the store change in any way. -/
  | others {tree : FileTree} {watcher : Watcher} {store : Store} (changed : FileTree) (published : Store) :
      Step ⟨tree, watcher, store⟩ .other ⟨changed, watcher, published⟩

abbrev Run : World → List Event → World → Prop :=
  Execution Step

namespace Event

def marks : Event → List Mark
  | .moved marks => marks
  | _ => []

def isMoved : Event → Bool
  | .moved _ => true
  | _ => false

def isNoticed : Event → Bool
  | .noticed _ => true
  | _ => false

end Event

-- What has become known in a run, in that order.
def history (events : List Event) : List Mark :=
  events.flatMap Event.marks

theorem history_append (before after : List Event) : history (before ++ after) = history before ++ history after :=
  List.flatMap_append

theorem history_concat (past : List Event) (event : Event) :
    history (past ++ [event]) = history past ++ event.marks := by
  rw [history_append, history, history, List.flatMap_singleton]

theorem step_start {tree : FileTree} {path : Path} {directory : Place} (found : watchable? tree path = some directory)
    (store : Store) : (ofPath path).step tree .start store =
      some ({ ofPath path with directory := some directory, state := .watching }, store) := by
  simp only [step, started, ofPath, found]

theorem step_take {watcher : Watcher} {notice : Notice} {rest : List Notice} (watching : watcher.state = .watching)
    (notices : watcher.notices = notice :: rest) (relevant : concerns watcher.path notice = true) (tree : FileTree)
    (store : Store) : watcher.step tree .take store =
      some ({ watcher with notices := rest, loaded := none, state := .reloading }, store) := by
  simp only [step, watching, notices, stateAfter_of_concerns relevant]

inductive Turns : WatcherState → List Mark → WatcherState → Prop where
  | stay {state : WatcherState} : Turns state [] state
  | begins : Turns .idle [.shown .watching] .watching
  | fails : Turns .idle [.shown .stopped] .stopped
  | opens : Turns .watching [.shown .reloading] .reloading
  | ends (published : Option Edition) :
      Turns .reloading ((published.map .published).toList ++ [.shown .watching]) .watching
  | stops : Turns .watching [.shown .stopped] .stopped

theorem marks_of_same_store (watcher next : Watcher) (store : Store) :
    marks watcher store (next, store) = if next.state = watcher.state then [] else [.shown next.state] := by
  rw [marks, List.drop_length, List.map_nil, List.nil_append]

theorem accept_cases (store : Store) (loaded : Except ConfigurationError Snapshot) :
    store.accept loaded = store ∨ ∃ snapshot, store.accept loaded = store.publish snapshot := by
  unfold Store.accept
  split
  · split
    · exact .inl rfl
    · exact .inr ⟨_, rfl⟩
  · exact .inl rfl

theorem turns_of_moves {tree : FileTree} {store : Store} {action : Action} {watcher : Watcher}
    {next : Watcher × Store} (moved : Moves tree store action watcher next) :
    Turns watcher.state (marks watcher store next) next.1.state := by
  cases moved with
  | start idle =>
    rw [marks_of_same_store, idle]
    unfold started
    cases watchable? tree watcher.path
    · exact .fails
    · exact .begins
  | @take _ notice rest watching notices =>
    rw [marks_of_same_store, watching]
    simp only [stateAfter]
    split
    · exact .stops
    · split
      · exact .opens
      · exact .stay
  | exhausted watching =>
    rw [marks_of_same_store, watching]
    exact .stops
  | read reloading =>
    rw [marks_of_same_store, reloading]
    exact .stay
  | @finish _ loaded reloading =>
    rw [reloading]
    rcases accept_cases store loaded with same | ⟨snapshot, published⟩
    · rw [same, marks_of_same_store, reloading]
      exact .ends none
    · have new : (store.publish snapshot).announced.drop store.announced.length =
          [(store.publish snapshot).current] := by
        rw [Store.publish_announced, List.drop_left]
      rw [published, marks, new, reloading]
      exact .ends (some _)
  | stop watching =>
    rw [marks_of_same_store, watching]
    exact .stops

theorem Step.turns {world next : World} {event : Event} (stepped : Step world event next) :
    Turns world.watcher.state event.marks next.watcher.state := by
  cases stepped with
  | move stepped => exact turns_of_moves (moves_of_step stepped)
  | refuse idle =>
    rw [show World.watcher _ = _ from rfl, idle]
    exact .fails
  | _ => exact .stay

end BslLint.Watcher.Course
