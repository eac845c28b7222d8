import BslLint.Configuration.Watcher
import BslLint.Proofs.Execution

/-! Runs of a watcher in a world where files change and notices arrive at any time, in any order. The events
of a run record what matters to the configuration in force: changes of the watched file, notices, and what
reloads read. -/

set_option autoImplicit false

namespace BslLint

namespace Watcher

inductive Moves (tree : FileTree) (store : Store) : Action → Watcher → Watcher × Store → Prop where
  | start {watcher : Watcher} : watcher.state = .idle →
      Moves tree store .start watcher (watcher.started tree, store)
  | take {watcher : Watcher} {notice : Notice} {rest : List Notice} : watcher.state = .watching →
      watcher.notices = notice :: rest →
      Moves tree store .take watcher
        ({ watcher with notices := rest, loaded := none, state := stateAfter watcher.path notice }, store)
  | exhausted {watcher : Watcher} : watcher.state = .watching → watcher.notices = [] → watcher.closed = true →
      Moves tree store .take watcher ({ watcher with state := .stopped }, store)
  | read {watcher : Watcher} : watcher.state = .reloading → watcher.loaded = none →
      Moves tree store .read watcher
        ({ watcher with loaded := some (Snapshot.load tree watcher.path) }, store)
  | finish {watcher : Watcher} {loaded : Except ConfigurationError Snapshot} : watcher.state = .reloading →
      watcher.loaded = some loaded →
      Moves tree store .finish watcher ({ watcher with state := .watching }, store.accept loaded)
  | stop {watcher : Watcher} : watcher.state = .watching → watcher.stopRequested = true →
      Moves tree store .stop watcher ({ watcher with state := .stopped }, store)

theorem moves_of_step {tree : FileTree} {store : Store} {action : Action} {watcher : Watcher}
    {next : Watcher × Store} (stepped : watcher.step tree action store = some next) :
    Moves tree store action watcher next := by
  unfold step at stepped
  split at stepped
  · cases stepped
    exact .start ‹_›
  · split at stepped
    · cases stepped
      exact .take ‹_› ‹_›
    · split at stepped
      · cases stepped
        exact .exhausted ‹_› ‹_› ‹_›
      · cases stepped
  · split at stepped
    · cases stepped
      exact .read ‹_› ‹_›
    · cases stepped
  · rw [Option.map_eq_some_iff] at stepped
    obtain ⟨loaded, found, rfl⟩ := stepped
    exact .finish ‹_› found
  · split at stepped
    · cases stepped
      exact .stop ‹_› ‹_›
    · cases stepped
  · cases stepped

-- What happens in the world of a watcher.
inductive Event where
  /-- The watched file changes. -/
  | edited
  | noticed (notice : Notice)
  /-- A reload reads the file. -/
  | loaded (result : Except ConfigurationError Snapshot)
  /-- Anything else. -/
  | other

namespace Event

def loaded? : Event → Option (Except ConfigurationError Snapshot)
  | .loaded result => some result
  | _ => none

/-- What the reloads of a run read, oldest first. -/
def loads (events : List Event) : List (Except ConfigurationError Snapshot) :=
  events.filterMap loaded?

theorem loads_cons (event : Event) (events : List Event) :
    loads (event :: events) = event.loaded?.toList ++ loads events := by
  cases event <;> rfl

theorem loads_append (before after : List Event) : loads (before ++ after) = loads before ++ loads after :=
  List.filterMap_append

end Event

/-- A watcher with the files it sees and the store that it alone publishes to. -/
structure World where
  tree : FileTree
  watcher : Watcher
  store : Store

/-- The steps of a world. Nothing is assumed about when notices come, or which. -/
inductive Step : World → Event → World → Prop where
  /-- The files change in any way. -/
  | edit {tree : FileTree} {watcher : Watcher} {store : Store} (changed : FileTree) :
      Step ⟨tree, watcher, store⟩ .edited ⟨changed, watcher, store⟩
  /-- The files change, and the watched one reads as before. -/
  | elsewhere {tree : FileTree} {watcher : Watcher} {store : Store} {changed : FileTree} :
      changed.readText watcher.path = tree.readText watcher.path →
      Step ⟨tree, watcher, store⟩ .other ⟨changed, watcher, store⟩
  | notice {tree : FileTree} {watcher : Watcher} {store : Store} (notice : Notice) :
      Step ⟨tree, watcher, store⟩ (.noticed notice) ⟨tree, watcher.receive notice, store⟩
  | close {tree : FileTree} {watcher : Watcher} {store : Store} :
      Step ⟨tree, watcher, store⟩ .other ⟨tree, { watcher with closed := true }, store⟩
  | requestStop {tree : FileTree} {watcher : Watcher} {store : Store} :
      Step ⟨tree, watcher, store⟩ .other ⟨tree, watcher.requestStop, store⟩
  | read {tree : FileTree} {watcher : Watcher} {store : Store} {next : Watcher × Store} :
      watcher.step tree .read store = some next →
      Step ⟨tree, watcher, store⟩ (.loaded (Snapshot.load tree watcher.path)) ⟨tree, next.1, next.2⟩
  /-- The watcher does anything else. -/
  | move {tree : FileTree} {watcher : Watcher} {store : Store} {action : Action} {next : Watcher × Store} :
      watcher.step tree action store = some next → action ≠ .read →
      Step ⟨tree, watcher, store⟩ .other ⟨tree, next.1, next.2⟩

abbrev Run : World → List Event → World → Prop :=
  Execution Step

theorem Moves.path_eq {tree : FileTree} {store : Store} {action : Action} {watcher : Watcher}
    {next : Watcher × Store} (moved : Moves tree store action watcher next) :
    next.1.path = watcher.path := by
  cases moved with
  | start idle =>
    unfold started
    cases watchable? tree watcher.path <;> rfl
  | _ => rfl

theorem Step.path_eq {world next : World} {event : Event} (stepped : Step world event next) :
    next.watcher.path = world.watcher.path := by
  cases stepped with
  | read stepped => exact (moves_of_step stepped).path_eq
  | move stepped _ => exact (moves_of_step stepped).path_eq
  | _ => rfl

theorem Run.path_eq {start final : World} {events : List Event} (run : Run start events final) :
    final.watcher.path = start.watcher.path := by
  induction run with
  | done => rfl
  | next stepped _ ih => rw [ih, stepped.path_eq]

-- Once a watcher has begun it does not return to its first state.
theorem Moves.state_ne_idle {tree : FileTree} {store : Store} {action : Action} {watcher : Watcher}
    {next : Watcher × Store} (moved : Moves tree store action watcher next) : next.1.state ≠ .idle := by
  cases moved with
  | start idle =>
    unfold started
    cases watchable? tree watcher.path <;> exact nofun
  | @take _ notice rest watching notices =>
    simp only [stateAfter]
    split
    · exact nofun
    · split <;> exact nofun
  | exhausted => exact nofun
  | read reloading unread => exact fun idle => nomatch reloading.symm.trans idle
  | finish => exact nofun
  | stop => exact nofun

theorem Step.state_ne_idle {world next : World} {event : Event}
    (stepped : Step world event next) (begun : world.watcher.state ≠ .idle) :
    next.watcher.state ≠ .idle := by
  cases stepped with
  | read stepped => exact (moves_of_step stepped).state_ne_idle
  | move stepped _ => exact (moves_of_step stepped).state_ne_idle
  | _ => exact begun

end Watcher

end BslLint
