import BslLint.Proofs.Configuration.Acceptance
import BslLint.Proofs.Configuration.Reading
import BslLint.Proofs.Watching.Freshness

/-! How results of reloads reach the store. A result is pending from its reading to the end of the reload, so
that the store takes over all results, in the order of reading. -/

set_option autoImplicit false

namespace BslLint.Watcher

def World.pending (world : World) : List (Except ConfigurationError Snapshot) :=
  if world.watcher.state = .reloading then world.watcher.loaded.toList else []

theorem World.pending_of_notReloading {world : World} (other : world.watcher.state ≠ .reloading) :
    world.pending = [] :=
  if_neg other

theorem World.pending_of_reloading {world : World} (reloading : world.watcher.state = .reloading) :
    world.pending = world.watcher.loaded.toList :=
  if_pos reloading

theorem started_state_ne (tree : FileTree) (watcher : Watcher) :
    (watcher.started tree).state ≠ .reloading := by
  unfold started
  cases watchable? tree watcher.path <;> exact nofun

theorem Moves.pending {tree : FileTree} {store : Store} {action : Action} {watcher : Watcher}
    {next : Watcher × Store} (moved : Moves tree store action watcher next) (other : action ≠ .read) :
    ∃ taken, World.pending ⟨tree, watcher, store⟩ = taken ++ World.pending ⟨tree, next.1, next.2⟩ ∧
      next.2 = taken.foldl Store.accept store := by
  -- Nothing is pending outside a reload, so that only its end has something to take over.
  have idle (before : watcher.state ≠ .reloading) (after : World.pending ⟨tree, next.1, next.2⟩ = [])
      (same : next.2 = store) : ∃ taken, World.pending ⟨tree, watcher, store⟩ =
        taken ++ World.pending ⟨tree, next.1, next.2⟩ ∧ next.2 = taken.foldl Store.accept store :=
    ⟨[], by rw [after, World.pending_of_notReloading before]; rfl, same⟩
  cases moved with
  | read => exact absurd rfl other
  | start before =>
    exact idle (by simp [before]) (World.pending_of_notReloading (started_state_ne tree watcher)) rfl
  | take before =>
    refine idle (by simp [before]) ?_ rfl
    simp [World.pending]
  | exhausted before => exact idle (by simp [before]) rfl rfl
  | stop before => exact idle (by simp [before]) rfl rfl
  | @finish _ loaded before found =>
    refine ⟨[loaded], ?_, rfl⟩
    rw [World.pending_of_reloading before, found]
    rfl

/-- What a step reads is added to what is pending; what is no longer pending has been taken over, in order. -/
theorem Step.pending {world next : World} {event : Event} (stepped : Step world event next) :
    ∃ taken, world.pending ++ event.loaded?.toList = taken ++ next.pending ∧
      next.store = taken.foldl Store.accept world.store := by
  cases stepped with
  | move stepped other =>
    obtain ⟨taken, queue, result⟩ := (moves_of_step stepped).pending other
    exact ⟨taken, (List.append_nil _).trans queue, result⟩
  | read stepped =>
    cases moves_of_step stepped with
    | read reloading unread =>
      refine ⟨[], ?_, rfl⟩
      rw [World.pending_of_reloading reloading, World.pending_of_reloading reloading, unread]
      rfl
  | _ => exact ⟨[], List.append_nil _, rfl⟩

theorem Run.pending {start final : World} {events : List Event} (run : Run start events final) :
    ∃ taken, start.pending ++ Event.loads events = taken ++ final.pending ∧
      final.store = taken.foldl Store.accept start.store := by
  induction run with
  | done => exact ⟨[], List.append_nil _, rfl⟩
  | @next world next final event events stepped _ ih =>
    obtain ⟨first, queued, moved⟩ := stepped.pending
    obtain ⟨later, rest, result⟩ := ih
    refine ⟨first ++ later, ?_, ?_⟩
    · rw [Event.loads_cons, ← List.append_assoc, queued, List.append_assoc, rest, List.append_assoc]
    · rw [result, moved, List.foldl_append]

-- Until the watch is set up, nothing is read or published.
theorem Step.of_idle {world next : World} {event : Event}
    (stepped : Step world event next) (idle : world.watcher.state = .idle) (unchanged : event ≠ .edited) :
    event.loaded? = none ∧ next.store = world.store ∧ next.watcher.state ≠ .reloading := by
  have stays : world.watcher.state ≠ .reloading := by simp [idle]
  cases stepped with
  | edit => exact absurd rfl unchanged
  | read stepped =>
    cases moves_of_step stepped with
    | read reloading => exact absurd reloading stays
  | move stepped _ =>
    cases moves_of_step stepped with
    | start => exact ⟨rfl, rfl, started_state_ne _ _⟩
    | finish reloading => exact absurd reloading stays
    | take watching | exhausted watching | read watching | stop watching => cases idle.symm.trans watching
  | _ => exact ⟨rfl, rfl, stays⟩

-- In quiet, all that was read since the start has been taken over.
theorem Run.store_of_quiet {start final : World} {events : List Event} (run : Run start events final)
    (idle : start.watcher.state ≠ .reloading) (quiet : final.Quiet) :
    final.store = (Event.loads events).foldl Store.accept start.store := by
  obtain ⟨taken, queue, result⟩ := run.pending
  rw [World.pending_of_notReloading idle, World.pending_of_notReloading quiet.notReloading, List.nil_append,
    List.append_nil] at queue
  rw [result, queue]

theorem Run.agrees_latest {start final : World} {events : List Event} (run : Run start events final)
    (idle : start.watcher.state ≠ .reloading) (quiet : final.Quiet) :
    final.store.current.snapshot.agrees
      (Snapshot.latest start.store.current.snapshot (Event.loads events)) = true := by
  rw [run.store_of_quiet idle quiet]
  exact start.store.foldl_accept_agrees _

-- A file that has been read and loads is in force.
theorem Run.agrees_of_loads {start final : World} {events : List Event} (run : Run start events final)
    (idle : start.watcher.state ≠ .reloading) (announced : Announced start.watcher.path events)
    (quiet : final.Quiet) (read : Event.loads events ≠ []) {snapshot : Snapshot}
    (loads : Snapshot.Loads final.tree start.watcher.path snapshot) :
    final.store.current.snapshot.agrees snapshot = true := by
  have last := run.last_load_of_loads announced quiet read
  rw [World.reading, run.path_eq, Snapshot.loads_iff.mp loads] at last
  have latest := run.agrees_latest idle quiet
  rw [Snapshot.latest_of_getLast? last] at latest
  exact latest

end BslLint.Watcher
