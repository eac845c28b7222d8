import BslLint.Proofs.Session.Watching
import BslLint.Proofs.Watching.LifeCycle

/-! The watchers of a session. A session holds a watcher from a start to a shutdown, however the watcher fares in
between, and a start makes a new watcher only if none is held. A watcher that the session has let go of goes on to its
end, so callers who wait for that end never have two of them at work. -/

set_option autoImplicit false

namespace BslLint.Session.Custody

variable {State : Type}

/-- A session with the files it sees and the watchers that it has let go of. -/
structure World (State : Type) where
  tree : FileTree
  session : Session State
  released : List Watcher

inductive Event where
  /-- A caller starts a watcher, and those that were let go of have come to their end. -/
  | started
  /-- A caller starts a watcher without having waited for that end. -/
  | hurried
  /-- A caller shuts the watcher down. -/
  | released
  | other
  deriving DecidableEq

/-- The steps of a session, of its files and of its watchers, in any order. -/
inductive Step : World State → Event → World State → Prop where
  | start {tree : FileTree} {session : Session State} {released : List Watcher} :
      (∀ watcher ∈ released, watcher.state = .stopped) →
      Step ⟨tree, session, released⟩ .started ⟨tree, session.startWatching, released⟩
  | hurry {tree : FileTree} {session : Session State} {released : List Watcher} :
      Step ⟨tree, session, released⟩ .hurried ⟨tree, session.startWatching, released⟩
  /-- A shutdown begins: the watcher is asked to stop, and the session no longer holds it. -/
  | release {tree : FileTree} {session : Session State} {released : List Watcher} {watcher : Watcher} :
      session.watcher = some watcher →
      Step ⟨tree, session, released⟩ .released
        ⟨tree, { session with watcher := none }, watcher.requestStop :: released⟩
  | call {tree : FileTree} {session : Session State} {released : List Watcher} {Answer : Type}
      {run : SessionCall State Answer} : OnlyDetects run →
      Step ⟨tree, session, released⟩ .other ⟨tree, (session.call run).2, released⟩
  /-- The files and the store change in any way. -/
  | others {tree : FileTree} {session : Session State} {released : List Watcher} (changed : FileTree)
      (published : Store) :
      Step ⟨tree, session, released⟩ .other ⟨changed, { session with store := published }, released⟩
  /-- The watcher that the session holds makes a step. Nobody else asks it to stop. -/
  | held {tree : FileTree} {session : Session State} {released : List Watcher} {watcher : Watcher}
      {event : Watcher.Course.Event} {next : Watcher.World} : session.watcher = some watcher →
      Watcher.Course.Step ⟨tree, watcher, session.store⟩ event next → event ≠ .asked →
      Step ⟨tree, session, released⟩ .other
        ⟨next.tree, { session with watcher := some next.watcher, store := next.store }, released⟩
  /-- A watcher that the session has let go of makes a step. -/
  | loose {tree : FileTree} {session : Session State} {before after : List Watcher} {watcher : Watcher}
      {event : Watcher.Course.Event} {next : Watcher.World} :
      Watcher.Course.Step ⟨tree, watcher, session.store⟩ event next →
      Step ⟨tree, session, before ++ watcher :: after⟩ .other
        ⟨next.tree, { session with store := next.store }, before ++ next.watcher :: after⟩

abbrev Run : World State → List Event → World State → Prop :=
  Execution Step

/-- Whether a session holds a watcher after a call, if it did so before. -/
def Event.holds (held : Bool) : Event → Bool
  | .started | .hurried => true
  | .released => false
  | .other => held

/-- Whether a session that has held no watcher holds one after calls: the last call that matters is a start. -/
def holds (events : List Event) : Bool :=
  events.foldl Event.holds false

theorem holds_concat (past : List Event) (event : Event) : holds (past ++ [event]) = event.holds (holds past) := by
  simp [holds]

theorem isSome_startWatching (session : Session State) : session.startWatching.watcher.isSome = true := by
  cases held : session.watcher with
  | none => rw [startWatching_of_none held, Option.isSome_some]
  | some watcher => rw [startWatching_of_some held, held, Option.isSome_some]

theorem configurationPath_startWatching (session : Session State) :
    session.startWatching.configurationPath = session.configurationPath := by
  unfold startWatching
  cases session.watcher <;> rfl

/-- What becomes of the held watcher is the same for all ways in which it may fare. -/
theorem Step.isSome_watcher {world next : World State} {event : Event} (stepped : Step world event next) :
    next.session.watcher.isSome = event.holds world.session.watcher.isSome := by
  cases stepped with
  | start => exact isSome_startWatching _
  | hurry => exact isSome_startWatching _
  | release => rfl
  | @call tree session released Answer run frame =>
    obtain ⟨detection, same⟩ := frame session
    simp [same, Event.holds]
  | others => rfl
  | held present => simp [present, Event.holds]
  | loose => rfl

theorem Step.configurationPath {world next : World State} {event : Event} (stepped : Step world event next) :
    next.session.configurationPath = world.session.configurationPath := by
  cases stepped with
  | start => exact configurationPath_startWatching _
  | hurry => exact configurationPath_startWatching _
  | @call tree session released Answer run frame =>
    obtain ⟨detection, same⟩ := frame session
    simp [same]
  | _ => rfl

theorem isSome_watcher_of_run {start final : World State} {events : List Event} (run : Run start events final)
    (unwatched : start.session.watcher = none) : final.session.watcher.isSome = holds events := by
  refine run.induct (fun past world => world.session.watcher.isSome = holds past) ?_ [] (by rw [unwatched]; rfl)
  intro past world event next held stepped
  rw [holds_concat, stepped.isSome_watcher, held]

theorem configurationPath_of_run {start final : World State} {events : List Event} (run : Run start events final) :
    final.session.configurationPath = start.session.configurationPath :=
  run.induct (fun _ world => world.session.configurationPath = start.session.configurationPath)
    (fun same stepped => stepped.configurationPath.trans same) [] rfl

theorem startWatching_eq_self {session : Session State} (held : session.watcher.isSome = true) :
    session.startWatching = session := by
  obtain ⟨watcher, present⟩ := Option.isSome_iff_exists.mp held
  exact startWatching_of_some present

/-- A new watcher that is left to itself watches, if its directory is there. -/
theorem settle_ofPath {tree : FileTree} {path : Path} {directory : Place}
    (found : Watcher.watchable? tree path = some directory) (store : Store) :
    (Watcher.ofPath path).settle tree store =
      ({ Watcher.ofPath path with directory := some directory, state := .watching }, store) := by
  have started := Watcher.Course.step_start found store
  have bound : (Watcher.ofPath path).stepBound = 3 + 1 := rfl
  have first : (Watcher.ofPath path).nextAction? = some .start := rfl
  rw [Watcher.settle, bound, Watcher.proceed, first, Option.bind_some, started]
  -- Nothing has happened yet that the watcher would have to do something about.
  rfl

theorem watcherState_of_start {session : Session State} (unwatched : session.watcher = none) {tree : FileTree}
    {directory : Place} (found : Watcher.watchable? tree session.configurationPath = some directory) :
    (session.startWatching.settle tree).watcherState = .watching := by
  rw [startWatching_of_none unwatched, settle]
  simp only [settle_ofPath found]
  rfl

theorem state_of_stopped {world next : Watcher.World} {event : Watcher.Course.Event}
    (stepped : Watcher.Course.Step world event next) (stopped : world.watcher.state = .stopped) :
    next.watcher.state = .stopped :=
  (Watcher.Course.over_of_stopped stopped (.next stepped .done)).1

theorem exists_of_stopped {session : Session State} (stopped : session.watcherState = .stopped) :
    ∃ watcher, session.watcher = some watcher ∧ watcher.state = .stopped := by
  cases present : session.watcher with
  | none => simp [watcherState, present] at stopped
  | some watcher => exact ⟨watcher, rfl, (watcherState_of_some present).symm.trans stopped⟩

/-- As long as nobody shuts it down, a session whose watcher has ended has no other one. -/
theorem Step.stopped {world next : World State} {event : Event} (stepped : Step world event next)
    (goesOn : event ≠ .released) (stopped : world.session.watcherState = .stopped) :
    next.session.watcherState = .stopped := by
  obtain ⟨watcher, present, ended⟩ := exists_of_stopped stopped
  have held : world.session.watcher.isSome = true := by rw [present]; rfl
  cases stepped with
  | start => rwa [startWatching_eq_self held]
  | hurry => rwa [startWatching_eq_self held]
  | release => exact absurd rfl goesOn
  | @call tree session released Answer run frame =>
    obtain ⟨detection, same⟩ := frame session
    rwa [same]
  | others => exact stopped
  | held found stepped =>
    cases found.symm.trans present
    exact state_of_stopped stepped ended
  | loose => exact stopped

theorem stopped_of_run {start final : World State} {events : List Event} (run : Run start events final)
    (goesOn : .released ∉ events) (stopped : start.session.watcherState = .stopped) :
    final.session.watcherState = .stopped := by
  induction run with
  | done => exact stopped
  | next stepped _ ih =>
    rw [List.mem_cons, not_or] at goesOn
    exact ih goesOn.2 (stepped.stopped (Ne.symm goesOn.1) stopped)

/-- Every watcher that the session has let go of has been asked to stop. -/
theorem Step.asked {world next : World State} {event : Event} (stepped : Step world event next)
    (asked : ∀ watcher ∈ world.released, watcher.stopRequested = true) :
    ∀ watcher ∈ next.released, watcher.stopRequested = true := by
  cases stepped with
  | release =>
    intro watcher member
    rcases List.mem_cons.mp member with rfl | former
    · rfl
    · exact asked watcher former
  | @loose tree session before after watcher event next stepped =>
    intro other member
    rcases List.mem_append.mp member with front | back
    · exact asked other (by simp [front])
    · rcases List.mem_cons.mp back with rfl | behind
      · exact stepped.stopRequested (asked watcher (by simp))
      · exact asked other (by simp [behind])
  | _ => exact asked

theorem asked_of_run {start final : World State} {events : List Event} (run : Run start events final)
    (asked : ∀ watcher ∈ start.released, watcher.stopRequested = true) :
    ∀ watcher ∈ final.released, watcher.stopRequested = true :=
  run.induct (fun _ world => ∀ watcher ∈ world.released, watcher.stopRequested = true)
    (fun asked stepped => stepped.asked asked) [] asked

def isAlive (watcher : Watcher) : Bool :=
  watcher.state != .stopped

theorem isAlive_eq_false_iff (watcher : Watcher) : isAlive watcher = false ↔ watcher.state = .stopped := by
  simp [isAlive]

/-- How many watchers of the session have not come to their end. -/
def World.alive (world : World State) : Nat :=
  world.session.watcher.toList.countP isAlive + world.released.countP isAlive

theorem isAlive_of_step {world next : Watcher.World} {event : Watcher.Course.Event}
    (stepped : Watcher.Course.Step world event next) (alive : isAlive next.watcher = true) :
    isAlive world.watcher = true := by
  cases still : isAlive world.watcher with
  | true => rfl
  | false =>
    rw [isAlive_eq_false_iff] at still
    have stays := (isAlive_eq_false_iff _).mpr (state_of_stopped stepped still)
    exact absurd alive (by simp [stays])

/-- What holds as long as nobody is in a hurry: only the last watcher that was let go of may still be at work, and only
while no other one is held. -/
structure World.Orderly (world : World State) : Prop where
  few : world.released.countP isAlive ≤ 1
  none_of_held : world.session.watcher.isSome = true → world.released.countP isAlive = 0

theorem World.Orderly.alive_le {world : World State} (orderly : world.Orderly) : world.alive ≤ 1 := by
  unfold World.alive
  cases held : world.session.watcher with
  | none => simpa using orderly.few
  | some watcher =>
    rw [orderly.none_of_held (by rw [held]; rfl), Nat.add_zero]
    exact List.countP_le_length

theorem countP_eq_zero_of_stopped {released : List Watcher} (ended : ∀ watcher ∈ released, watcher.state = .stopped) :
    released.countP isAlive = 0 := by
  rw [List.countP_eq_zero]
  intro watcher member
  simp [(isAlive_eq_false_iff watcher).mpr (ended watcher member)]

theorem Step.orderly {world next : World State} {event : Event} (stepped : Step world event next)
    (patient : event ≠ .hurried) (orderly : world.Orderly) : next.Orderly := by
  obtain ⟨few, none_of_held⟩ := orderly
  cases stepped with
  | start ended =>
    have none := countP_eq_zero_of_stopped ended
    exact ⟨few, fun _ => none⟩
  | hurry => exact absurd rfl patient
  | @release tree session released watcher present =>
    -- The held watcher was the only one at work.
    have none : released.countP isAlive = 0 := none_of_held (by rw [present]; rfl)
    refine ⟨?_, nofun⟩
    rw [List.countP_cons, none]
    split <;> omega
  | @call tree session released Answer run frame =>
    obtain ⟨detection, same⟩ := frame session
    exact ⟨few, fun held => none_of_held (by simpa [same] using held)⟩
  | others => exact ⟨few, none_of_held⟩
  | held present => exact ⟨few, fun _ => none_of_held (by rw [present]; rfl)⟩
  | @loose tree session before after watcher event next stepped =>
    -- A watcher that goes on does not come back from its end.
    have fewer : (before ++ next.watcher :: after).countP isAlive ≤ (before ++ watcher :: after).countP isAlive := by
      simp only [List.countP_append, List.countP_cons]
      by_cases alive : isAlive next.watcher = true
      · simp [alive, isAlive_of_step stepped alive]
      · simp [alive]
    exact ⟨fewer.trans few, fun held => Nat.le_zero.mp (fewer.trans (none_of_held held).le)⟩

theorem orderly_of_run {start final : World State} {events : List Event} (run : Run start events final)
    (patient : .hurried ∉ events) (orderly : start.Orderly) : final.Orderly := by
  induction run with
  | done => exact orderly
  | next stepped _ ih =>
    rw [List.mem_cons, not_or] at patient
    exact ih patient.2 (stepped.orderly (Ne.symm patient.1) orderly)

theorem Step.looseFirst (session : Session State) (released : List Watcher) {tree : FileTree} {watcher : Watcher}
    {event : Watcher.Course.Event} {next : Watcher.World}
    (stepped : Watcher.Course.Step ⟨tree, watcher, session.store⟩ event next) :
    Step ⟨tree, session, watcher :: released⟩ .other
      ⟨next.tree, { session with store := next.store }, next.watcher :: released⟩ := by
  rw [← List.nil_append (watcher :: released), ← List.nil_append (next.watcher :: released)]
  exact .loose stepped

theorem released_run (session : Session State) (released : List Watcher) {tree : FileTree}
    {events : List Watcher.Course.Event} {watcher : Watcher} {final : Watcher.World}
    (run : Watcher.Course.Run ⟨tree, watcher, session.store⟩ events final) :
    ∃ others, Run ⟨tree, session, watcher :: released⟩ others
      ⟨final.tree, { session with store := final.store }, final.watcher :: released⟩ ∧ .hurried ∉ others := by
  generalize begins : Watcher.World.mk tree watcher session.store = start at run
  induction run generalizing tree session watcher with
  | done =>
    subst begins
    exact ⟨[], .done, List.not_mem_nil⟩
  | @next _ next _ event events stepped _ ih =>
    subst begins
    obtain ⟨others, rest, patient⟩ := ih { session with store := next.store } rfl
    exact ⟨.other :: others, .next (.looseFirst session released stepped) rest, by simp [patient]⟩

theorem shutdown_run (tree : FileTree) {session : Session State} {watcher : Watcher}
    (held : session.watcher = some watcher) (released : List Watcher) :
    ∃ events ended, Run ⟨tree, session, released⟩ (.released :: events)
      ⟨tree, (session.shutdown tree).2, ended :: released⟩ ∧ .hurried ∉ events ∧ ended.state = .stopped := by
  obtain ⟨asked, run⟩ := Watcher.Course.shutdown_run ⟨tree, watcher, session.store⟩
  have atRest := (Watcher.Course.over_afterShutdown ⟨tree, watcher, session.store⟩ .done).1
  cases run with
  | next first rest =>
    cases first
    obtain ⟨events, loose, patient⟩ := released_run { session with watcher := none } released rest
    refine ⟨events, _, .next (.release held) ?_, patient, atRest⟩
    have same : (session.shutdown tree).2 = { session with
        watcher := none, store := (Watcher.Course.afterShutdown ⟨tree, watcher, session.store⟩).store } := by
      rw [shutdown, held]
      rfl
    rw [same]
    exact loose

theorem watcher_shutdown (tree : FileTree) (session : Session State) : (session.shutdown tree).2.watcher = none := by
  unfold shutdown
  cases held : session.watcher with
  | none => exact held
  | some watcher => rfl

theorem configurationPath_shutdown (tree : FileTree) (session : Session State) :
    (session.shutdown tree).2.configurationPath = session.configurationPath := by
  unfold shutdown
  cases session.watcher <;> rfl

/-- When a start makes a watcher: exactly if the session holds none, because none was started since the session was
opened or last shut down. Then the new watcher watches, once it has had the time to set up and the directory is there.
Otherwise a start changes nothing, also where the watcher that is held has ended by itself: it stays ended until it is
shut down, and that makes way for a new one. Watchers that were let go of have been asked to stop, and as long as
every start waits for their end, at most one watcher is at work. -/
theorem start_makes_watcher_iff {start final : World State} {events : List Event} (run : Run start events final)
    (unwatched : start.session.watcher = none) (new : start.released = []) :
    (final.session.watcher = none ↔ holds events = false) ∧
    (holds events = false →
      final.session.startWatching.watcher = some (.ofPath start.session.configurationPath) ∧
      ∀ (tree : FileTree) (directory : Place),
        Watcher.watchable? tree start.session.configurationPath = some directory →
        (final.session.startWatching.settle tree).watcherState = .watching) ∧
    (holds events = true → final.session.startWatching = final.session ∧
      (final.session.watcherState = .stopped → ∀ {later : List Event} {last : World State},
        Run final later last → .released ∉ later → last.session.watcherState = .stopped) ∧
      ∃ later ended, Run final (.released :: later)
          ⟨final.tree, (final.session.shutdown final.tree).2, ended :: final.released⟩ ∧
        .hurried ∉ later ∧ ended.state = .stopped ∧ ∀ (tree : FileTree) (directory : Place),
          Watcher.watchable? tree start.session.configurationPath = some directory →
          ((final.session.shutdown final.tree).2.startWatching.settle tree).watcherState = .watching) ∧
    (∀ watcher ∈ final.released, watcher.stopRequested = true) ∧
    (.hurried ∉ events → final.alive ≤ 1) := by
  have path := configurationPath_of_run run
  have held := isSome_watcher_of_run run unwatched
  have absent_iff : final.session.watcher = none ↔ holds events = false := by
    rw [← held, Option.isSome_eq_false_iff, Option.isNone_iff_eq_none]
  refine ⟨absent_iff, ?_, ?_, ?_, ?_⟩
  · intro free
    have absent := absent_iff.mpr free
    refine ⟨?_, fun tree directory found => watcherState_of_start absent (path ▸ found)⟩
    rw [startWatching_of_none absent, ← path]
  · intro kept
    rw [kept] at held
    refine ⟨startWatching_eq_self held, fun stopped _ _ later goesOn => stopped_of_run later goesOn stopped, ?_⟩
    obtain ⟨watcher, present⟩ := Option.isSome_iff_exists.mp held
    obtain ⟨later, ended, shut, patient, atRest⟩ := shutdown_run final.tree present final.released
    refine ⟨later, ended, shut, patient, atRest, fun tree directory found => ?_⟩
    apply watcherState_of_start (watcher_shutdown _ _)
    rw [configurationPath_shutdown, path]
    exact found
  · exact asked_of_run run (by simp [new])
  · intro patient
    apply World.Orderly.alive_le
    apply orderly_of_run run patient
    constructor <;> simp [new]

-- A watcher whose directory is missing at first. It ends, and the directory is made before the next start.

namespace Ended

def root : Path := ⟨"/ws"⟩

def path : Path := configurationPathFor root (some ⟨"conf/c.json"⟩)

def missing : FileTree := FileTree.empty.put ["ws"] .directory

def created : FileTree := missing.put ["ws", "conf"] .directory

def session : Session BuiltinRule :=
  ⟨root, path, Builtin.registry, .opened .standard, .run missing root .standard, none⟩

def final : World BuiltinRule :=
  ⟨created, { session with watcher := some { Watcher.ofPath path with state := .stopped } }, []⟩

theorem openAt_eq : openAt missing root (some ⟨"conf/c.json"⟩) Builtin.registry = .ok session := by
  have loaded : Snapshot.load missing path = .ok .standard :=
    Snapshot.loads_iff.mp (.missing (by decide +kernel))
  unfold path at loaded
  unfold openAt
  simp only [loaded]
  rfl

theorem watchable?_created : Watcher.watchable? created path = some ["ws", "conf"] := by
  decide +kernel

theorem run : Run ⟨missing, session, []⟩ [.started, .other, .other] final := by
  have unwatchable : Watcher.watchable? missing (Watcher.ofPath path).path = none := by decide +kernel
  have failed : (Watcher.ofPath path).step missing .start session.store =
      some ({ Watcher.ofPath path with state := .stopped }, session.store) := by
    simp only [Watcher.step, Watcher.ofPath, Watcher.started] at unwatchable ⊢
    rw [unwatchable]
  have start : Step ⟨missing, session, []⟩ .started ⟨missing, session.startWatching, []⟩ := .start (by simp)
  have alone (marks : List Watcher.Course.Mark) : Watcher.Course.Event.moved marks ≠ .asked := by simp
  exact .next start (.next (.held rfl (.move failed) (alone _)) (.next (.others created session.store) .done))

end Ended

/-- With a watcher that has ended a start changes nothing, and after a shutdown it makes a new watcher. -/
theorem start_makes_watcher_iff_ended :
    Run ⟨Ended.missing, Ended.session, []⟩ [.started, .other, .other] Ended.final ∧ Ended.session.watcher = none ∧
      holds [.started, .other, .other] = true ∧ Ended.final.session.startWatching = Ended.final.session ∧
      ((Ended.final.session.shutdown Ended.created).2.startWatching.settle Ended.created).watcherState = .watching ∧
      .hurried ∉ [Event.started, .other, .other] ∧ Ended.final.alive ≤ 1 := by
  obtain ⟨_, _, kept, _, few⟩ := start_makes_watcher_iff Ended.run rfl rfl
  obtain ⟨unchanged, _, _, _, _, _, _, restarts⟩ := kept rfl
  have patient : .hurried ∉ [Event.started, .other, .other] := by decide
  exact ⟨Ended.run, rfl, rfl, unchanged, restarts _ _ Ended.watchable?_created, patient, few patient⟩

/-- A start with no watcher at work and the directory in place, after which none is at work. -/
theorem ended_watcher_not_restarted :
    openAt Ended.missing Ended.root (some ⟨"conf/c.json"⟩) Builtin.registry = .ok Ended.session ∧
      Run ⟨Ended.missing, Ended.session, []⟩ [.started, .other, .other] Ended.final ∧ Ended.final.alive = 0 ∧
      Watcher.watchable? Ended.created Ended.path = some ["ws", "conf"] ∧
      (Ended.final.session.startWatching.settle Ended.created).watcherState = .stopped :=
  ⟨Ended.openAt_eq, Ended.run, rfl, Ended.watchable?_created, rfl⟩

end BslLint.Session.Custody
