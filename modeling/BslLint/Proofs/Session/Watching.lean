import BslLint.Check.Registry
import BslLint.Proofs.Session.Calls
import BslLint.Proofs.Watching.Pending

/-! Sessions that start to watch their configuration. The file is read when a session is opened, and again
after each notice. What changes in between, before the watch is set up, goes unnoticed. -/

set_option autoImplicit false

namespace BslLint

namespace Session

variable {State : Type}

structure World (State : Type) where
  tree : FileTree
  session : Session State

def World.watched (world : World State) (watcher : Watcher) : Watcher.World :=
  ⟨world.tree, watcher, world.session.store⟩

/-- The steps of a session and its files. Changes of the configuration file are recorded once the watch is set
up. -/
inductive Step : World State → Watcher.Event → World State → Prop where
  | startWatching {tree : FileTree} {session : Session State} :
      Step ⟨tree, session⟩ .other ⟨tree, session.startWatching⟩
  | call {tree : FileTree} {session : Session State} {Answer : Type} {run : SessionCall State Answer} :
      OnlyDetects run → Step ⟨tree, session⟩ .other ⟨tree, (session.call run).2⟩
  /-- The files change in any way before the watch is set up. -/
  | miss {tree : FileTree} {session : Session State} (changed : FileTree) : session.watcherState = .idle →
      Step ⟨tree, session⟩ .other ⟨changed, session⟩
  /-- The watcher makes a step, or the world that it watches. -/
  | watch {tree : FileTree} {session : Session State} {watcher : Watcher} {event : Watcher.Event}
      {next : Watcher.World} : session.watcher = some watcher →
      Watcher.Step ⟨tree, watcher, session.store⟩ event next → (watcher.state = .idle → event ≠ .edited) →
      Step ⟨tree, session⟩ event
        ⟨next.tree, { session with watcher := some next.watcher, store := next.store }⟩

abbrev Run : World State → List Watcher.Event → World State → Prop :=
  Execution Step

/-- The session watches, and its watcher has nothing to do about the file. -/
def World.Quiet (world : World State) : Prop :=
  ∃ watcher, world.session.watcher = some watcher ∧ watcher.state = .watching ∧
    (world.watched watcher).Quiet

/-- The watcher of a session, if there is one, is about the session's configuration file. -/
def World.Consistent (world : World State) : Prop :=
  ∀ watcher, world.session.watcher = some watcher → watcher.path = world.session.configurationPath

theorem watcherState_of_some {session : Session State} {watcher : Watcher}
    (present : session.watcher = some watcher) : session.watcherState = watcher.state := by
  rw [watcherState, present]

theorem startWatching_of_none {session : Session State} (absent : session.watcher = none) :
    session.startWatching = { session with watcher := some (.ofPath session.configurationPath) } := by
  rw [startWatching, absent]

theorem startWatching_of_some {session : Session State} {watcher : Watcher}
    (present : session.watcher = some watcher) : session.startWatching = session := by
  rw [startWatching, present]

/-- From the set-up of the watch on, a session does what its watcher does. -/
theorem Step.watched {world next : World State} {event : Watcher.Event} (stepped : Step world event next)
    {watcher : Watcher} (present : world.session.watcher = some watcher) (begun : watcher.state ≠ .idle) :
    ∃ moved, next.session.watcher = some moved ∧ moved.state ≠ .idle ∧
      Watcher.Step (world.watched watcher) event (next.watched moved) := by
  cases stepped with
  | startWatching =>
    rw [startWatching_of_some present]
    exact ⟨watcher, present, begun, .elsewhere rfl⟩
  | @call tree session Answer run frame =>
    obtain ⟨detection, same⟩ := frame session
    rw [same]
    exact ⟨watcher, present, begun, .elsewhere rfl⟩
  | miss changed idle => exact absurd ((watcherState_of_some present).symm.trans idle) begun
  | watch found stepped _ =>
    cases found.symm.trans present
    exact ⟨_, rfl, stepped.state_ne_idle begun, stepped⟩

theorem Run.watched {start final : World State} {events : List Watcher.Event} (run : Run start events final)
    {watcher : Watcher} (present : start.session.watcher = some watcher) (begun : watcher.state ≠ .idle) :
    ∃ last, final.session.watcher = some last ∧
      Watcher.Run (start.watched watcher) events (final.watched last) := by
  induction run generalizing watcher with
  | done => exact ⟨watcher, present, .done⟩
  | next stepped _ ih =>
    obtain ⟨moved, found, begun, step⟩ := stepped.watched present begun
    obtain ⟨last, ending, rest⟩ := ih found begun
    exact ⟨last, ending, .next step rest⟩

structure World.SameBefore (world next : World State) : Prop where
  configurationPath : next.session.configurationPath = world.session.configurationPath
  store : next.session.store = world.session.store
  consistent : next.Consistent
  notReloading : next.session.watcherState ≠ .reloading

/-- Before the watch is set up, nothing is read, and no change is recorded. -/
theorem Step.unwatched {world next : World State} {event : Watcher.Event} (stepped : Step world event next)
    (idle : world.session.watcherState = .idle) (consistent : world.Consistent) :
    event.loaded? = none ∧ event ≠ .edited ∧ world.SameBefore next := by
  have stays : world.session.watcherState ≠ .reloading := by simp [idle]
  cases stepped with
  | @startWatching tree session =>
    refine ⟨rfl, nofun, ?_⟩
    cases present : session.watcher with
    | some watcher =>
      rw [startWatching_of_some present]
      exact ⟨rfl, rfl, consistent, stays⟩
    | none =>
      rw [startWatching_of_none present]
      refine ⟨rfl, rfl, ?_, nofun⟩
      rintro watcher ⟨⟩
      rfl
  | @call tree session Answer run frame =>
    obtain ⟨detection, same⟩ := frame session
    rw [same]
    exact ⟨rfl, nofun, ⟨rfl, rfl, consistent, stays⟩⟩
  | miss changed => exact ⟨rfl, nofun, ⟨rfl, rfl, consistent, stays⟩⟩
  | watch present stepped recorded =>
    have unstarted := (watcherState_of_some present).symm.trans idle
    have unchanged := recorded unstarted
    obtain ⟨unread, same, moved⟩ := stepped.of_idle unstarted unchanged
    refine ⟨unread, unchanged, ⟨rfl, same, ?_, moved⟩⟩
    rintro watcher ⟨⟩
    exact stepped.path_eq.trans (consistent _ present)

/-- A run that ends with a watch has a first moment of it. Until then nothing happens to the configuration in
force. -/
theorem Run.set_up {start final : World State} {events : List Watcher.Event} (run : Run start events final)
    (idle : start.session.watcherState = .idle) (consistent : start.Consistent)
    (watching : final.session.watcherState ≠ .idle) :
    ∃ before after moment, events = before ++ after ∧ Watcher.Event.loads before = [] ∧ .edited ∉ before ∧
      start.SameBefore moment ∧ moment.session.watcherState ≠ .idle ∧ Run moment after final := by
  induction run with
  | done => exact absurd idle watching
  | @next world next final event events stepped rest ih =>
    obtain ⟨unread, unchanged, same⟩ := stepped.unwatched idle consistent
    have first : Watcher.Event.loads [event] = [] := by
      rw [Watcher.Event.loads_cons, unread]
      rfl
    -- The moment is after the first step that leaves the idle state behind.
    by_cases begun : next.session.watcherState = .idle
    · obtain ⟨before, after, moment, rfl, later, quiet, kept, set, rest⟩ := ih begun same.consistent watching
      refine ⟨event :: before, after, moment, rfl, ?_, ?_, ?_, set, rest⟩
      · rw [Watcher.Event.loads_cons, unread, later]
        rfl
      · rw [List.mem_cons, not_or]
        exact ⟨unchanged.symm, quiet⟩
      · exact ⟨kept.configurationPath.trans same.configurationPath, kept.store.trans same.store,
          kept.consistent, kept.notReloading⟩
    · exact ⟨[event], events, next, rfl, first, by simpa using unchanged.symm, same, begun, rest⟩

/-- The part of a run in which the session watches, as a run of its watcher. -/
theorem Run.watching {start final : World State} {events : List Watcher.Event} (run : Run start events final)
    (unwatched : start.session.watcher = none) {last : Watcher} (ending : final.session.watcher = some last)
    (begun : last.state ≠ .idle) :
    ∃ before after moment, events = before ++ after ∧ Watcher.Event.loads before = [] ∧ .edited ∉ before ∧
      moment.watcher.path = start.session.configurationPath ∧ moment.store = start.session.store ∧
      moment.watcher.state ≠ .reloading ∧ Watcher.Run moment after (final.watched last) := by
  have idle : start.session.watcherState = .idle := by rw [watcherState, unwatched]
  have consistent : start.Consistent := fun watcher present => nomatch unwatched.symm.trans present
  obtain ⟨before, after, world, split, unread, unchanged, kept, set, rest⟩ :=
    run.set_up idle consistent (watcherState_of_some ending ▸ begun)
  obtain ⟨watcher, present⟩ : ∃ watcher, world.session.watcher = some watcher := by
    cases found : world.session.watcher with
    | none => exact absurd (by rw [watcherState, found]) set
    | some watcher => exact ⟨watcher, rfl⟩
  have shown := watcherState_of_some present
  obtain ⟨same, found, watched⟩ := rest.watched present (shown ▸ set)
  cases found.symm.trans ending
  exact ⟨before, after, world.watched watcher, split, unread, unchanged,
    (kept.consistent watcher present).trans kept.configurationPath, kept.store,
    shown ▸ kept.notReloading, watched⟩

/-- When the configuration in force is the one in the file: the file has been read since the watch was set up,
or it says what was in force before. Any change that the watcher is told of suffices; a change that falls
between the opening of the session and the set-up of the watch may be missed for good. -/
theorem run_agrees_iff {start final : World State} {events : List Watcher.Event}
    (run : Run start events final) (unwatched : start.session.watcher = none)
    (announced : Watcher.Announced start.session.configurationPath events) (quiet : final.Quiet)
    {snapshot : Snapshot} (loads : Snapshot.Loads final.tree start.session.configurationPath snapshot) :
    (final.session.snapshot.agrees snapshot = true ↔
      Watcher.Event.loads events ≠ [] ∨ start.session.snapshot.agrees snapshot = true) ∧
    (.edited ∈ events → final.session.snapshot.agrees snapshot = true) := by
  obtain ⟨last, ending, watching, quiet⟩ := quiet
  obtain ⟨before, after, moment, rfl, unread, unchanged, path, store, idle, watched⟩ :=
    run.watching unwatched ending (by simp [watching])
  have announced : Watcher.Announced moment.watcher.path after := path ▸ announced.of_append
  have fresh (read : Watcher.Event.loads after ≠ []) : final.session.snapshot.agrees snapshot = true :=
    watched.agrees_of_loads idle announced quiet read (path ▸ loads)
  have same : Watcher.Event.loads (before ++ after) = Watcher.Event.loads after := by
    rw [Watcher.Event.loads_append, unread, List.nil_append]
  rw [same]
  constructor
  · by_cases read : Watcher.Event.loads after = []
    · -- Nothing has been taken over since the session was opened.
      have kept : final.session.store = start.session.store := by
        have taken := watched.store_of_quiet idle quiet
        rw [read] at taken
        exact taken.trans store
      simp only [Session.snapshot, kept, read, ne_eq, not_true_eq_false, false_or]
    · simp only [fresh read, read, ne_eq, not_false_eq_true, true_or]
  · intro changed
    rcases List.mem_append.mp changed with early | late
    · exact absurd early unchanged
    · exact fresh (watched.loads_ne_nil announced quiet late)

-- A configuration file that is created between the opening of a session and the set-up of the watch.

namespace Gap

def root : Path := ⟨"/ws"⟩

def path : Path := configurationPathFor root none

def opened : FileTree := FileTree.empty.put ["ws"] .directory

def created : FileTree := opened.put ["ws", Snapshot.fileName] (.file "[\"en\"]".toUTF8)

def session : Session BuiltinRule :=
  ⟨root, path, Builtin.registry, .opened .standard, .run opened root .standard, none⟩

def watcher : Watcher :=
  { Watcher.ofPath path with state := .watching, directory := some ["ws"] }

def final : World BuiltinRule :=
  ⟨created, { session with watcher := some watcher }⟩

theorem openAt_eq : openAt opened root none Builtin.registry = .ok session := by
  have missing : Snapshot.Loads opened path .standard := .missing (by decide +kernel)
  have loaded := Snapshot.loads_iff.mp missing
  unfold path at loaded
  unfold openAt
  simp only [loaded]
  rfl

theorem run : Run ⟨opened, session⟩ [.other, .other, .other] final := by
  have directory : Watcher.watchable? created path = some ["ws"] := by decide +kernel
  have started : (Watcher.ofPath path).started created = watcher := by
    have found : Watcher.watchable? created (Watcher.ofPath path).path = some ["ws"] := directory
    simp only [Watcher.started, found]
    rfl
  have start : (Watcher.ofPath path).step created .start (.opened .standard) =
      some (watcher, .opened .standard) := by
    rw [← started]
    rfl
  exact .next (.miss created rfl) (.next .startWatching
    (.next (.watch rfl (.move start nofun) nofun) .done))

theorem announced : Watcher.Announced path [.other, .other, .other] :=
  Watcher.announced_of_not_mem (by simp)

theorem quiet : final.Quiet :=
  ⟨watcher, rfl, rfl, nofun, nofun⟩

theorem loads : Snapshot.Loads final.tree path (.withLanguage .standard .en) :=
  Snapshot.loads_iff.mpr (by decide +kernel)

end Gap

theorem run_agrees_iff_created :
    Run ⟨Gap.opened, Gap.session⟩ [.other, .other, .other] Gap.final ∧ Gap.session.watcher = none ∧
      Watcher.Announced Gap.path [.other, .other, .other] ∧ Gap.final.Quiet ∧
      Snapshot.Loads Gap.final.tree Gap.path (.withLanguage .standard .en) ∧
      (Gap.final.session.snapshot.agrees (.withLanguage .standard .en) = true ↔
        Watcher.Event.loads [.other, .other, .other] ≠ [] ∨
          Gap.session.snapshot.agrees (.withLanguage .standard .en) = true) :=
  ⟨Gap.run, rfl, Gap.announced, Gap.quiet, Gap.loads,
    (run_agrees_iff Gap.run rfl Gap.announced Gap.quiet Gap.loads).1⟩

/-- A session that watches, with nothing left to do, while another configuration stands in its file. -/
theorem created_unnoticed :
    openAt Gap.opened Gap.root none Builtin.registry = .ok Gap.session ∧
      Run ⟨Gap.opened, Gap.session⟩ [.other, .other, .other] Gap.final ∧
      Watcher.Announced Gap.path [.other, .other, .other] ∧ Gap.final.Quiet ∧
      Snapshot.Loads Gap.final.tree Gap.path (.withLanguage .standard .en) ∧
      Gap.final.session.snapshot.agrees (.withLanguage .standard .en) = false :=
  ⟨Gap.openAt_eq, Gap.run, Gap.announced, Gap.quiet, Gap.loads, by decide +kernel⟩

end Session

end BslLint
