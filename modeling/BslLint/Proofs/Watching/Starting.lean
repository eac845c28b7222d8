import BslLint.Proofs.Watching.LifeCycle

/-! A caller who waits for a watcher to start. What the caller learns is the state at the moment of looking, which need
not be the state that the start led to: a reload may be under way by then. -/

set_option autoImplicit false

namespace BslLint.Watcher.Course

/-- A watcher with a caller who waits for its start, and what the caller has learned. -/
structure Waiting where
  world : World
  answer : Option WatcherState

namespace Waiting

inductive Step : Waiting → Event → Waiting → Prop where
  | goOn {world next : World} {event : Event} {answer : Option WatcherState} : Course.Step world event next →
      Step ⟨world, answer⟩ event ⟨next, answer⟩
  /-- The caller looks, and goes on waiting if there is nothing to learn. -/
  | look {world : World} : Step ⟨world, none⟩ .other ⟨world, world.watcher.startOutcome?⟩

abbrev Run : Waiting → List Event → Waiting → Prop :=
  Execution Step

theorem Step.world {waiting next : Waiting} {event : Event} (stepped : Step waiting event next) :
    Course.Step waiting.world event next.world := by
  cases stepped with
  | goOn stepped => exact stepped
  | look => exact .others _ _

theorem world_of_run {start final : Waiting} {events : List Event} (run : Run start events final) :
    Course.Run start.world events final.world := by
  induction run with
  | done => exact .done
  | next stepped _ ih => exact .next stepped.world ih

-- An answer comes from a look at some moment of the run.
theorem moment_of_answer {start final : Waiting} {events : List Event} (run : Run start events final)
    (waits : start.answer = none) {answer : WatcherState} (answered : final.answer = some answer) :
    ∃ before after moment, events = before ++ .other :: after ∧ Course.Run start.world before moment ∧
      Course.Run moment after final.world ∧ moment.watcher.startOutcome? = some answer := by
  induction run with
  | done => cases waits.symm.trans answered
  | @next waiting next final event events stepped rest ih =>
    cases stepped with
    | goOn stepped =>
      obtain ⟨before, after, moment, rfl, earlier, later, looked⟩ := ih waits answered
      exact ⟨event :: before, after, moment, rfl, .next stepped earlier, later, looked⟩
    | @look world =>
      cases looked : world.watcher.startOutcome? with
      | none =>
        obtain ⟨before, after, moment, rfl, earlier, later, found⟩ := ih looked answered
        exact ⟨.other :: before, after, moment, rfl, .next (.others _ _) earlier, later, found⟩
      | some state =>
        -- Nobody looks any more once there is an answer.
        have kept : final.answer = some state := by
          refine Execution.induct (fun _ waiting => waiting.answer = some state) ?_ rest [] looked
          rintro _ _ _ _ held (stepped | _)
          · exact held
          · cases held
        cases kept.symm.trans answered
        exact ⟨[], events, world, rfl, .done, world_of_run rest, looked⟩

end Waiting

-- What ends the watch: its notices fail or end, or the watcher is asked to stop.
def Event.disturbs : Event → Bool
  | .noticed .failed | .closed | .asked => true
  | _ => false

structure Calm (watcher : Watcher) : Prop where
  unasked : watcher.stopRequested = false
  unclosed : watcher.closed = false
  unfailed : .failed ∉ watcher.notices

theorem calm_ofPath (path : Path) : Calm (ofPath path) :=
  ⟨rfl, rfl, List.not_mem_nil⟩

theorem Calm.moved {tree : FileTree} {store : Store} {action : Action} {watcher : Watcher} {next : Watcher × Store}
    (calm : Calm watcher) (moved : Moves tree store action watcher next) :
    Calm next.1 ∧ (next.1.state = .stopped → watcher.state = .idle) := by
  cases moved with
  | start idle =>
    refine ⟨?_, fun _ => idle⟩
    unfold started
    cases watchable? tree watcher.path <;> exact ⟨calm.unasked, calm.unclosed, calm.unfailed⟩
  | @take _ notice rest watching notices =>
    have sound : .failed ∉ notice :: rest := notices ▸ calm.unfailed
    refine ⟨⟨calm.unasked, calm.unclosed, fun later => sound (.tail _ later)⟩, fun stopped => ?_⟩
    cases notice with
    | failed => exact absurd (.head _) sound
    | _ =>
      simp only [stateAfter] at stopped
      split at stopped <;> cases stopped
  | exhausted _ _ closed => cases calm.unclosed.symm.trans closed
  | read reloading =>
    refine ⟨⟨calm.unasked, calm.unclosed, calm.unfailed⟩, fun stopped => ?_⟩
    cases reloading.symm.trans stopped
  | finish =>
    refine ⟨⟨calm.unasked, calm.unclosed, calm.unfailed⟩, fun stopped => ?_⟩
    cases stopped
  | stop _ requested => cases calm.unasked.symm.trans requested

theorem Step.calm {world next : World} {event : Event} (stepped : Step world event next)
    (undisturbed : event.disturbs = false) (calm : Calm world.watcher) :
    Calm next.watcher ∧
      (next.watcher.state = .stopped → world.watcher.state = .idle ∨ world.watcher.state = .stopped) := by
  cases stepped with
  | move stepped =>
    obtain ⟨still, idle⟩ := calm.moved (moves_of_step stepped)
    exact ⟨still, fun stopped => .inl (idle stopped)⟩
  | refuse idle => exact ⟨⟨calm.unasked, calm.unclosed, calm.unfailed⟩, fun _ => .inl idle⟩
  | notice notice =>
    refine ⟨⟨calm.unasked, calm.unclosed, fun failed => ?_⟩, .inr⟩
    rcases List.mem_append.mp failed with earlier | now
    · exact calm.unfailed earlier
    · cases List.mem_singleton.mp now
      cases undisturbed
  | close => cases undisturbed
  | ask => cases undisturbed
  | others => exact ⟨calm, .inr⟩

/-- How far a watcher has come that nothing ends, with what has become known. -/
inductive Stage : WatcherState → List Mark → Prop where
  | created : Stage .idle []
  | failed : Stage .stopped [.shown .stopped]
  | watching (later : List Mark) : Stage .watching (.shown .watching :: later)
  | reloading (later : List Mark) : Stage .reloading (.shown .watching :: later)

theorem Stage.turn {state next : WatcherState} {past marks : List Mark} (stage : Stage state past)
    (turned : Turns state marks next) (undisturbed : next = .stopped → state = .idle ∨ state = .stopped) :
    Stage next (past ++ marks) := by
  cases turned with
  | stay => rwa [List.append_nil]
  | begins =>
    cases stage
    exact .watching []
  | fails =>
    cases stage
    exact .failed
  | opens =>
    cases stage with
    | watching later => exact .reloading _
  | ends published =>
    cases stage with
    | reloading later => exact .watching _
  | stops => rcases undisturbed rfl with idle | stopped <;> contradiction

-- Where a watcher is that has begun, seen from how its start went.
theorem Stage.outcome {state : WatcherState} {past : List Mark} (stage : Stage state past) (begun : state ≠ .idle) :
    ∃ outcome, past.head? = some (.shown outcome) ∧ (outcome = .watching ∨ outcome = .stopped) ∧
      (outcome = .stopped ↔ state = .stopped) ∧ (state = outcome ↔ state ≠ .reloading) := by
  cases stage with
  | created => exact absurd rfl begun
  | failed => exact ⟨.stopped, rfl, .inr rfl, by decide, by decide⟩
  | watching => exact ⟨.watching, rfl, .inl rfl, by decide, by decide⟩
  | reloading => exact ⟨.watching, rfl, .inl rfl, by decide, by decide⟩

def Undisturbed (events : List Event) : Prop :=
  ∀ event ∈ events, event.disturbs = false

theorem Undisturbed.of_append {before after : List Event} (undisturbed : Undisturbed (before ++ after)) :
    Undisturbed before :=
  fun event happened => undisturbed event (List.mem_append_left after happened)

theorem stage_of_run {tree : FileTree} {path : Path} {store : Store} {events : List Event} {final : World}
    (run : Run ⟨tree, ofPath path, store⟩ events final) (undisturbed : Undisturbed events) :
    Stage final.watcher.state (history events) := by
  have staged := run.induct
    (fun past world => Undisturbed past → Calm world.watcher ∧ Stage world.watcher.state (history past)) ?_ []
    fun _ => ⟨calm_ofPath path, .created⟩
  · exact (staged undisturbed).2
  · intro past world event next held stepped undisturbed
    obtain ⟨calm, stage⟩ := held undisturbed.of_append
    obtain ⟨still, goesOn⟩ := stepped.calm (undisturbed event (List.mem_append_right _ (.head _))) calm
    rw [history_concat]
    exact ⟨still, stage.turn stepped.turns goesOn⟩

theorem startOutcome?_eq_some {watcher : Watcher} {answer : WatcherState}
    (answered : watcher.startOutcome? = some answer) : watcher.state = answer ∧ answer ≠ .idle := by
  unfold startOutcome? at answered
  split at answered
  · cases answered
  · cases answered
    exact ⟨rfl, ‹_›⟩

/-- A caller who waits for the start of a watcher that nothing ends learns the state at the moment of looking, which
is the state that the start led to exactly if no reload is under way then. It is never the first state, and it tells
whether the start failed. Once it is known what the start led to, the next look has an answer. -/
theorem start_answer {tree : FileTree} {path : Path} {store : Store} {events : List Event} {final : Waiting}
    (run : Waiting.Run ⟨⟨tree, ofPath path, store⟩, none⟩ events final) (undisturbed : Undisturbed events) :
    (∀ {answer : WatcherState}, final.answer = some answer →
      ∃ outcome, (history events).head? = some (.shown outcome) ∧ (outcome = .watching ∨ outcome = .stopped) ∧
        answer ≠ .idle ∧ (outcome = .stopped ↔ answer = .stopped) ∧
        ∃ before after moment, events = before ++ .other :: after ∧ Run ⟨tree, ofPath path, store⟩ before moment ∧
          Run moment after final.world ∧ answer = moment.watcher.state ∧
          (answer = outcome ↔ moment.watcher.state ≠ .reloading)) ∧
    (history events ≠ [] → final.answer = none → ∃ answer, Waiting.Step final .other ⟨final.world, some answer⟩) := by
  constructor
  · intro answer answered
    obtain ⟨before, after, moment, rfl, earlier, later, looked⟩ := Waiting.moment_of_answer run rfl answered
    obtain ⟨rfl, begun⟩ := startOutcome?_eq_some looked
    obtain ⟨outcome, first, known, failed, exact⟩ := (stage_of_run earlier undisturbed.of_append).outcome begun
    have shown : (history (before ++ .other :: after)).head? = some (.shown outcome) := by
      rw [history_append, List.head?_append, first, Option.some_or]
    exact ⟨outcome, shown, known, begun, failed, before, after, moment, rfl, earlier, later, rfl, exact⟩
  · intro known waits
    have stage := stage_of_run (Waiting.world_of_run run) undisturbed
    obtain ⟨world, answer⟩ := final
    cases waits
    have begun : world.watcher.state ≠ .idle := by
      intro idle
      rw [idle] at stage
      generalize history events = marks at stage known
      cases stage
      exact known rfl
    have looked : Waiting.Step ⟨world, none⟩ .other ⟨world, world.watcher.startOutcome?⟩ := .look
    rw [startOutcome?, if_neg begun] at looked
    exact ⟨_, looked⟩

theorem start_answer_watching :
    let start : World := ⟨.empty, ofPath ⟨"/c.json"⟩, .opened .standard⟩
    let watcher : Watcher := { start.watcher with directory := some [], state := .watching }
    let final : Waiting := ⟨{ start with watcher }, some .watching⟩
    let events : List Event := [.other, .moved [.shown .watching], .other]
    Waiting.Run ⟨start, none⟩ events final ∧ Undisturbed events ∧
      ∃ outcome, (history events).head? = some (.shown outcome) ∧ WatcherState.watching ≠ .idle ∧
        (outcome = .stopped ↔ WatcherState.watching = .stopped) := by
  intro start watcher final events
  have started : start.watcher.step .empty .start start.store = some (watcher, start.store) :=
    step_start (by decide +kernel) _
  have run : Waiting.Run ⟨start, none⟩ events final := .next .look (.next (.goOn (.move started)) (.next .look .done))
  have undisturbed : Undisturbed events := by simp [Undisturbed, events, Event.disturbs]
  obtain ⟨outcome, first, _, begun, failed, _⟩ := (start_answer run undisturbed).1 rfl
  exact ⟨run, undisturbed, outcome, first, begun, failed⟩

/-- A start that succeeds, and a caller who learns something else, as the file has changed at once. -/
theorem changed_before_look :
    let start : World := ⟨.empty, ofPath ⟨"/c.json"⟩, .opened .standard⟩
    let watcher : Watcher := { start.watcher with directory := some [], state := .reloading }
    let final : Waiting := ⟨{ start with watcher }, some .reloading⟩
    let events : List Event :=
      [.other, .moved [.shown .watching], .noticed (.changed ["c.json"]), .moved [.shown .reloading], .other]
    Waiting.Run ⟨start, none⟩ events final ∧ Undisturbed events ∧
      (history events).head? = some (.shown .watching) := by
  intro start watcher final events
  let watching : Watcher := { watcher with state := .watching }
  have started : start.watcher.step .empty .start start.store = some (watching, start.store) :=
    step_start (by decide +kernel) _
  have taken : (watching.receive (.changed ["c.json"])).step .empty .take start.store = some (watcher, start.store) :=
    step_take rfl rfl (by decide +kernel) .empty _
  have run : Waiting.Run ⟨start, none⟩ events final :=
    .next .look (.next (.goOn (.move started)) (.next (.goOn (.notice _)) (.next (.goOn (.move taken))
      (.next .look .done))))
  exact ⟨run, by simp [Undisturbed, events, Event.disturbs], rfl⟩

end BslLint.Watcher.Course
