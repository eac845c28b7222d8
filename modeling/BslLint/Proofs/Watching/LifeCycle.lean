import BslLint.Proofs.Watching.Course

/-! The life of a watcher, whatever happens around it: it watches and reloads in turn until it stops for good, and
it stops when it is asked to. -/

set_option autoImplicit false

namespace BslLint.Watcher.Course

def reload (published : Option Edition) : List Mark :=
  .shown .reloading :: (published.map .published).toList ++ [.shown .watching]

/-- What becomes known of a watcher until it shows a state. -/
inductive Life : WatcherState → List Mark → Prop where
  | created : Life .idle [.shown .idle]
  | failed : Life .stopped [.shown .idle, .shown .stopped]
  | watching (reloads : List (Option Edition)) :
      Life .watching (.shown .idle :: .shown .watching :: reloads.flatMap reload)
  | reloading (reloads : List (Option Edition)) :
      Life .reloading (.shown .idle :: .shown .watching :: reloads.flatMap reload ++ [.shown .reloading])
  | stopped (reloads : List (Option Edition)) :
      Life .stopped (.shown .idle :: .shown .watching :: reloads.flatMap reload ++ [.shown .stopped])

theorem Life.turn {state next : WatcherState} {past marks : List Mark} (life : Life state past)
    (turned : Turns state marks next) : Life next (past ++ marks) := by
  cases turned with
  | stay => rwa [List.append_nil]
  | begins =>
    cases life
    exact .watching []
  | fails =>
    cases life
    exact .failed
  | opens =>
    cases life with
    | watching reloads => exact .reloading reloads
  | ends published =>
    cases life with
    | reloading reloads =>
      -- The reload under way is over now, and one more in the list.
      have longer := Life.watching (reloads ++ [published])
      rw [List.flatMap_append, List.flatMap_singleton, reload] at longer
      simpa using longer
  | stops =>
    cases life with
    | watching reloads => exact .stopped reloads

/-- Whatever a watcher has shown so far, it may stop before it shows another reload. -/
theorem Life.to_stopped {state : WatcherState} {past : List Mark} (life : Life state past) :
    ∃ whole, Life .stopped whole ∧ past <+: whole := by
  cases life with
  | created => exact ⟨_, .failed, ⟨[.shown .stopped], rfl⟩⟩
  | failed => exact ⟨_, .failed, List.prefix_rfl⟩
  | watching reloads => exact ⟨_, .stopped reloads, List.prefix_append _ _⟩
  | reloading reloads =>
    -- The reload under way may still end without an edition.
    refine ⟨_, .stopped (reloads ++ [none]), ⟨[.shown .watching, .shown .stopped], ?_⟩⟩
    simp [reload]
  | stopped reloads => exact ⟨_, .stopped reloads, List.prefix_rfl⟩

theorem life_of_run {start final : World} {events : List Event} (run : Run start events final)
    (idle : start.watcher.state = .idle) : Life final.watcher.state (.shown .idle :: history events) := by
  refine run.induct (fun past world => Life world.watcher.state (.shown .idle :: history past)) ?_ [] (idle ▸ .created)
  intro past world event next life stepped
  have longer := life.turn stepped.turns
  rwa [List.cons_append, ← history_concat] at longer

theorem unchanged_of_take {tree : FileTree} {watcher : Watcher} {store : Store} {notice : Notice} {rest : List Notice}
    {next : Watcher × Store} (notices : watcher.notices = notice :: rest) (goesOn : notice ≠ .failed)
    (elsewhere : concerns watcher.path notice = false) (taken : watcher.step tree .take store = some next) :
    next.1.state = watcher.state ∧ next.2 = store := by
  cases moves_of_step taken with
  | @take _ first more watching waiting =>
    obtain ⟨rfl, rfl⟩ := List.cons.inj (notices.symm.trans waiting)
    refine ⟨?_, rfl⟩
    rw [watching]
    cases notice with
    | failed => exact absurd rfl goesOn
    | _ => simp [stateAfter, elsewhere]
  | exhausted _ none => cases notices.symm.trans none

/-- The watcher has stopped for good, and nothing more becomes known. -/
def Over (world : World) : Prop :=
  ∀ {events : List Event} {final : World}, Run world events final → final.watcher.state = .stopped ∧ history events = []

theorem over_of_stopped {world : World} (stopped : world.watcher.state = .stopped) : Over world := by
  intro events final run
  refine run.induct (fun past world => world.watcher.state = .stopped ∧ history past = []) ?_ [] ⟨stopped, rfl⟩
  rintro past world event next ⟨stopped, silent⟩ stepped
  have turned := stepped.turns
  rw [stopped] at turned
  rw [history_concat, silent, List.nil_append]
  -- No way leads on from this state.
  generalize next.watcher.state = state, event.marks = marks at turned
  cases turned
  exact ⟨rfl, rfl⟩

def Rests (world : World) : Prop :=
  ∀ {marks : List Mark} {next : World}, ¬ Step world (.moved marks) next

theorem Moves.stopRequested_eq {tree : FileTree} {store : Store} {action : Action} {watcher : Watcher}
    {next : Watcher × Store} (moved : Moves tree store action watcher next) :
    next.1.stopRequested = watcher.stopRequested := by
  cases moved with
  | start idle =>
    unfold started
    cases watchable? tree watcher.path <;> rfl
  | _ => rfl

theorem Step.stopRequested {world next : World} {event : Event} (stepped : Step world event next)
    (requested : world.watcher.stopRequested = true) : next.watcher.stopRequested = true := by
  cases stepped with
  | move stepped => exact (Moves.stopRequested_eq (moves_of_step stepped)).trans requested
  | ask => rfl
  | _ => exact requested

theorem stopRequested_of_run {start final : World} {events : List Event} (run : Run start events final)
    (requested : start.watcher.stopRequested = true) : final.watcher.stopRequested = true :=
  run.induct (fun _ world => world.watcher.stopRequested = true) (fun held stepped => stepped.stopRequested held)
    [] requested

theorem nextAction?_of_stopRequested {watcher : Watcher} (requested : watcher.stopRequested = true)
    (waits : watcher.nextAction? = none) : watcher.state = .stopped := by
  unfold nextAction? at waits
  cases state : watcher.state with
  | idle => simp [state] at waits
  | watching =>
    simp only [state, requested, if_pos] at waits
    split at waits <;> cases waits
  | reloading => simp [state] at waits
  | stopped => rfl

theorem Rests.waits {world : World} (rests : Rests world) : world.watcher.nextAction? = none := by
  cases chosen : world.watcher.nextAction? with
  | none => rfl
  | some action =>
    obtain ⟨next, stepped⟩ := step_of_nextAction? chosen world.tree world.store
    exact absurd (Step.move stepped) rests

theorem remaining_receive_le (watcher : Watcher) (notice : Notice) :
    (watcher.receive notice).remaining ≤ watcher.remaining + 3 := by
  unfold remaining receive
  cases watcher.state <;> cases watcher.loaded <;> simp <;> omega

/-- The moves that are left grow by three at most with a notice, and otherwise do not. -/
theorem Step.remaining_le {world next : World} {event : Event} (stepped : Step world event next) :
    (if event.isMoved then 1 else 0) + next.watcher.remaining ≤
      world.watcher.remaining + 3 * if event.isNoticed then 1 else 0 := by
  cases stepped with
  | move stepped =>
    have fewer := (moves_of_step stepped).remaining_lt
    simp only [Event.isMoved, Event.isNoticed, if_true, Bool.false_eq_true, if_false]
    omega
  | refuse idle =>
    simp [Event.isMoved, Event.isNoticed, remaining, idle]
  | @notice tree watcher store notice =>
    -- A notice may lead to a reload: it is taken, the file is read, and the reload ends.
    have more := remaining_receive_le watcher notice
    simp only [Event.isMoved, Event.isNoticed, if_true, Bool.false_eq_true, if_false]
    omega
  | _ => exact Nat.le_of_eq (Nat.zero_add _)

theorem moves_le {start final : World} {events : List Event} (run : Run start events final) :
    events.countP Event.isMoved + final.watcher.remaining ≤
      start.watcher.remaining + 3 * events.countP Event.isNoticed := by
  induction run with
  | done => simp
  | @next world next final event events stepped _ ih =>
    have one := stepped.remaining_le
    rw [List.countP_cons, List.countP_cons]
    omega

/-- What becomes of the watcher when it is asked to stop and left to itself. -/
def afterShutdown (world : World) : World :=
  ⟨world.tree, (world.watcher.shutdown world.tree world.store).1, (world.watcher.shutdown world.tree world.store).2⟩

theorem exists_of_step {world next : World} {event : Watcher.Event} (stepped : Watcher.Step world event next) :
    ∃ event, Step world event next := by
  cases stepped with
  | edit changed => exact ⟨_, .others changed _⟩
  | elsewhere same => exact ⟨_, .others _ _⟩
  | notice notice => exact ⟨_, .notice notice⟩
  | close => exact ⟨_, .close⟩
  | requestStop => exact ⟨_, .ask⟩
  | read stepped => exact ⟨_, .move stepped⟩
  | move stepped _ => exact ⟨_, .move stepped⟩

theorem exists_of_run {start final : World} {events : List Watcher.Event} (run : Watcher.Run start events final) :
    ∃ events, Run start events final := by
  induction run with
  | done => exact ⟨[], .done⟩
  | next stepped _ ih =>
    obtain ⟨event, first⟩ := exists_of_step stepped
    obtain ⟨events, rest⟩ := ih
    exact ⟨event :: events, .next first rest⟩

theorem shutdown_run (world : World) : ∃ events, Run world (.asked :: events) (afterShutdown world) := by
  obtain ⟨tree, watcher, store⟩ := world
  obtain ⟨_, settled, _⟩ := proceed_run tree watcher.requestStop.stepBound watcher.requestStop store
  obtain ⟨events, run⟩ := exists_of_run settled
  exact ⟨events, .next .ask run⟩

theorem stopRequested_of_asked {start final : World} {events : List Event} (run : Run start (.asked :: events) final) :
    final.watcher.stopRequested = true := by
  cases run with
  | next asked rest =>
    cases asked
    exact stopRequested_of_run rest rfl

theorem over_afterShutdown (world : World) : Over (afterShutdown world) := by
  obtain ⟨_, run⟩ := shutdown_run world
  exact over_of_stopped (nextAction?_of_stopRequested (stopRequested_of_asked run) (settle_waits _ _ _))

/-- What becomes known of a watcher is that it is there and then, unless that fails, that it watches and reloads in
turn, with at most one edition published in a reload, until it stops; then it has stopped for good. A notice that is
about something else changes neither the state nor the store. A watcher that is asked to stop goes on to its end, with
no more moves than the notices call for. -/
theorem life_cycle {tree : FileTree} {watcher : Watcher} {store : Store} {events : List Event} {final : World}
    (run : Run ⟨tree, watcher, store⟩ events final) (idle : watcher.state = .idle) :
    (∃ whole, Life .stopped whole ∧ .shown .idle :: history events <+: whole) ∧
    (final.watcher.state = .stopped → Over final) ∧
    (∀ {notice : Notice} {rest : List Notice} {next : Watcher × Store}, final.watcher.notices = notice :: rest →
      notice ≠ .failed → concerns final.watcher.path notice = false →
      final.watcher.step final.tree .take final.store = some next →
      next.1.state = final.watcher.state ∧ next.2 = final.store) ∧
    (∀ {later : List Event} {last : World}, Run final (.asked :: later) last →
      later.countP Event.isMoved ≤ final.watcher.remaining + 3 * later.countP Event.isNoticed ∧
      (Rests last → Over last)) ∧
    (∃ later, Run final (.asked :: later) (afterShutdown final)) ∧ Over (afterShutdown final) := by
  refine ⟨(life_of_run run idle).to_stopped, over_of_stopped, ?_, ?_, shutdown_run final, over_afterShutdown final⟩
  · intro notice rest next notices goesOn elsewhere taken
    exact unchanged_of_take notices goesOn elsewhere taken
  · intro later last asked
    constructor
    · have bound := moves_le asked
      simp only [List.countP_cons, Event.isMoved, Event.isNoticed, Bool.false_eq_true, if_false] at bound
      omega
    · intro rests
      exact over_of_stopped (nextAction?_of_stopRequested (stopRequested_of_asked asked) rests.waits)

theorem life_cycle_missing_file :
    let path : Path := ⟨"/c.json"⟩
    let notice : Notice := .changed ["c.json"]
    let store : Store := .opened (.withLanguage .standard .en)
    let watcher : Watcher :=
      { ofPath path with directory := some [], loaded := some (.ok .standard), state := .watching }
    let final : World := ⟨.empty, watcher, store.publish .standard⟩
    let events : List Event := [.moved [.shown .watching], .noticed notice, .moved [.shown .reloading], .moved [],
      .moved [.published ⟨1, .standard⟩, .shown .watching]]
    Run ⟨.empty, ofPath path, store⟩ events final ∧ (ofPath path).state = .idle ∧
      (∃ whole, Life .stopped whole ∧ .shown .idle :: history events <+: whole) ∧ Over (afterShutdown final) := by
  intro path notice store watcher final events
  let watching : Watcher := { ofPath path with directory := some [], state := .watching }
  let reloading : Watcher := { watching with state := .reloading }
  let loaded : Watcher := { reloading with loaded := some (.ok .standard) }
  have start : (ofPath path).step .empty .start store = some (watching, store) := step_start (by decide +kernel) store
  have take : (watching.receive notice).step .empty .take store = some (reloading, store) :=
    step_take rfl rfl (by decide +kernel) .empty store
  have missing : Snapshot.Loads .empty path .standard := .missing (by decide +kernel)
  have read : reloading.step .empty .read store = some (loaded, store) :=
    congrArg (fun result => some (({ reloading with loaded := some result } : Watcher), store))
      (Snapshot.loads_iff.mp missing)
  have finish : loaded.step .empty .finish store = some (final.watcher, final.store) := rfl
  have run : Run ⟨.empty, ofPath path, store⟩ events final :=
    .next (.move start) (.next (.notice notice) (.next (.move take) (.next (.move read) (.next (.move finish) .done))))
  have living := life_cycle run rfl
  exact ⟨run, rfl, living.1, living.2.2.2.2.2⟩

end BslLint.Watcher.Course
