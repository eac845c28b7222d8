import BslLint.Proofs.Session.Opening
import BslLint.Proofs.Watching.Pending

/-! What is in force while a configuration file is watched: once all is quiet, what the file says, or what it
said last. Notices about other files play no part in it. -/

set_option autoImplicit false

namespace BslLint

namespace Watcher

theorem stateAfter_ne_reloading {path : Path} {notice : Notice} (irrelevant : concerns path notice = false) :
    stateAfter path notice ≠ .reloading := by
  cases notice with
  | changed names => simp [stateAfter, irrelevant]
  | touched names => simp [stateAfter, irrelevant]
  | failed => simp [stateAfter]

theorem Moves.quiet {tree : FileTree} {store : Store} {action : Action} {watcher : Watcher}
    {next : Watcher × Store} (moved : Moves tree store action watcher next)
    (quiet : World.Quiet ⟨tree, watcher, store⟩) :
    action ≠ .read ∧ next.2 = store ∧ World.Quiet ⟨tree, next.1, next.2⟩ := by
  cases moved with
  | start idle =>
    refine ⟨nofun, rfl, started_state_ne tree watcher, ?_⟩
    unfold started
    cases watchable? tree watcher.path <;> exact quiet.unconcerned
  | @take _ notice rest watching notices =>
    have unconcerned := quiet.unconcerned
    simp only [notices] at unconcerned
    refine ⟨nofun, rfl, stateAfter_ne_reloading (unconcerned notice (.head rest)), ?_⟩
    intro other waiting
    exact unconcerned other (.tail notice waiting)
  | exhausted => exact ⟨nofun, rfl, nofun, quiet.unconcerned⟩
  | read reloading => exact absurd reloading quiet.notReloading
  | finish reloading => exact absurd reloading quiet.notReloading
  | stop => exact ⟨nofun, rfl, nofun, quiet.unconcerned⟩

theorem Step.quiet {world next : World} {event : Event} (stepped : Step world event next) (quiet : world.Quiet)
    (irrelevant : ∀ notice, event = .noticed notice → concerns world.watcher.path notice = false) :
    next.store = world.store ∧ next.Quiet := by
  cases stepped with
  | read stepped => exact absurd rfl ((moves_of_step stepped).quiet quiet).1
  | move stepped _ => exact ((moves_of_step stepped).quiet quiet).2
  | notice notice =>
    refine ⟨rfl, quiet.notReloading, ?_⟩
    intro other waiting
    rcases List.mem_append.mp waiting with before | new
    · exact quiet.unconcerned other before
    · exact irrelevant other (congrArg Event.noticed (List.mem_singleton.mp new).symm)
  | _ => exact ⟨rfl, quiet.notReloading, quiet.unconcerned⟩

/-- Notices about other files change nothing, whatever happens to the watched one. -/
theorem Run.store_of_unconcerned {start final : World} {events : List Event} (run : Run start events final)
    (quiet : start.Quiet)
    (irrelevant : ∀ notice, .noticed notice ∈ events → concerns start.watcher.path notice = false) :
    final.store = start.store ∧ final.Quiet := by
  induction run with
  | done => exact ⟨rfl, quiet⟩
  | @next world next final event events stepped _ ih =>
    obtain ⟨same, still⟩ := stepped.quiet quiet fun notice now => irrelevant notice (now ▸ .head events)
    obtain ⟨kept, ending⟩ := ih still fun notice later =>
      stepped.path_eq ▸ irrelevant notice (.tail event later)
    exact ⟨kept.trans same, ending⟩

-- What is read is what the file says at a moment of the run.
theorem Run.moment_of_load {start final : World} {events : List Event} (run : Run start events final)
    {snapshot : Snapshot} (read : .ok snapshot ∈ Event.loads events) :
    ∃ before after moment, events = before ++ after ∧ Run start before moment ∧ Run moment after final ∧
      Snapshot.Loads moment.tree start.watcher.path snapshot := by
  obtain ⟨event, happened, found⟩ := List.mem_filterMap.mp read
  cases event with
  | loaded result =>
    cases found
    obtain ⟨before, after, rfl⟩ := List.append_of_mem happened
    obtain ⟨moment, earlier, later⟩ := run.split
    refine ⟨before, _, moment, rfl, earlier, later, ?_⟩
    rw [Snapshot.loads_iff, ← Run.path_eq earlier]
    cases later with
    | next stepped _ => exact stepped.loaded_eq.symm
  | _ => cases found

/-- The configuration in force follows the watched file. What a watcher publishes is new each time, and what
the file said at some moment. Once changes of the file are announced and all is quiet, the store says what the
file says, as a new session would. While the file does not load, it says what the file said last. -/
theorem run_converges {start final : World} {events : List Event} (run : Run start events final)
    (watching : start.watcher.state = .watching) :
    (∃ published, start.store.Extends published final.store ∧
      ∀ snapshot ∈ published, ∃ before after moment, events = before ++ after ∧ Run start before moment ∧
        Run moment after final ∧ Snapshot.Loads moment.tree start.watcher.path snapshot) ∧
    (Announced start.watcher.path events → .edited ∈ events → final.Quiet →
      (∀ snapshot, Snapshot.Loads final.tree start.watcher.path snapshot →
        final.store.current.snapshot.agrees snapshot = true ∧
        ∀ (State : Type) (root : Path) (given : Option Path) (registry : Registry State),
          Session.configurationPathFor root given = start.watcher.path →
          ∃ session, Session.openAt final.tree root given registry = .ok session ∧
            session.snapshot = snapshot) ∧
      final.store.current.snapshot.agrees
        (Snapshot.latest start.store.current.snapshot (Event.loads events)) = true) := by
  have idle : start.watcher.state ≠ .reloading := by simp [watching]
  constructor
  · obtain ⟨taken, queue, result⟩ := run.pending
    rw [World.pending_of_notReloading idle, List.nil_append] at queue
    -- What is published is among what was taken over, and that was read before.
    obtain ⟨published, among, extended⟩ := start.store.foldl_accept_extends taken
    refine ⟨published, result ▸ extended, ?_⟩
    intro snapshot new
    obtain ⟨read, present, found⟩ := List.mem_filterMap.mp (among.subset new)
    cases read with
    | error error => cases found
    | ok loaded =>
      cases found
      exact run.moment_of_load (queue ▸ List.mem_append_left _ present)
  · intro announced changed quiet
    refine ⟨?_, run.agrees_latest idle quiet⟩
    intro snapshot loads
    constructor
    · exact run.agrees_of_loads idle announced quiet (run.loads_ne_nil announced quiet changed) loads
    · intro State root given registry same
      exact Session.openAt_of_loads (same ▸ loads) registry

/-- The file is removed that gave the language, a rule's setting and the configuration root. -/
theorem run_converges_removal :
    let path : Path := ⟨"/c.json"⟩
    let text :=
      "\x7b\"diagnosticLanguage\":\"en\",\"diagnostics\":\x7b\"LineLength\":false\x7d,\"configurationRoot\":\"src\"\x7d"
    let given : Snapshot := ⟨.en, [("LineLength", .toggle false)], some ⟨"src"⟩⟩
    let notice : Notice := .changed ["c.json"]
    let watcher : Watcher := { ofPath path with state := .watching, directory := some [] }
    let store : Store := .opened given
    let start : World := ⟨FileTree.empty.putFile ["c.json"] text.toUTF8, watcher, store⟩
    let final : World :=
      ⟨.empty, { watcher with loaded := some (.ok .standard) }, store.publish .standard⟩
    let events := [.edited, .noticed notice, .other, .loaded (Snapshot.load .empty path), .other]
    Snapshot.Loads start.tree path given ∧
      Run start events final ∧ start.watcher.state = .watching ∧ Announced path events ∧
      .edited ∈ events ∧ final.Quiet ∧ Snapshot.Loads final.tree path .standard ∧
      final.store.current.snapshot.agrees .standard = true := by
  intro path text given notice watcher store start final events
  let reloading : Watcher := { watcher with state := .reloading }
  let loaded : Watcher := { reloading with loaded := some (.ok .standard) }
  have relevant : concerns path notice = true := by decide +kernel
  have take : (watcher.receive notice).step .empty .take store = some (reloading, store) :=
    congrArg (fun state => some (({ watcher with state := state } : Watcher), store))
      (stateAfter_of_concerns relevant)
  have missing : Snapshot.Loads final.tree path .standard := .missing (by decide +kernel)
  have read : reloading.step .empty .read store = some (loaded, store) :=
    congrArg (fun result => some (({ reloading with loaded := some result } : Watcher), store))
      (Snapshot.loads_iff.mp missing)
  have finish : loaded.step .empty .finish store = some (final.watcher, final.store) := rfl
  have run : Run start events final :=
    .next (.edit .empty) (.next (.notice notice) (.next (.move take nofun) (.next (.read read)
      (.next (.move finish nofun) .done))))
  have announced : Announced path events :=
    (announced_of_not_mem (by simp)).edited (.head _) relevant
  have quiet : final.Quiet := ⟨nofun, nofun⟩
  have converged := (run_converges run rfl).2 announced (.head _) quiet
  exact ⟨Snapshot.loads_iff.mpr (by decide +kernel), run, rfl, announced, .head _, quiet, missing,
    (converged.1 _ missing).1⟩

end Watcher

end BslLint
