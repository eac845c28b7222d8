import BslLint.Proofs.Watching.Pending

/-! A watcher left to itself. It comes to rest after at most as many steps as it is given, and what it does
until then is a run in which no file changes. -/

set_option autoImplicit false

namespace BslLint.Watcher

variable {tree : FileTree} {store : Store} {watcher : Watcher}

/-- How many steps a watcher can make at most on its own. -/
def remaining (watcher : Watcher) : Nat :=
  -- A notice may cost three steps: it is taken, the file is read, and the reload ends.
  match watcher.state, watcher.loaded with
  | .idle, _ => 3 * watcher.notices.length + 2
  | .watching, _ => 3 * watcher.notices.length + 1
  | .reloading, none => 3 * watcher.notices.length + 3
  | .reloading, some _ => 3 * watcher.notices.length + 2
  | .stopped, _ => 0

theorem remaining_le (watcher : Watcher) : watcher.remaining ≤ 3 * watcher.notices.length + 3 := by
  unfold remaining
  split <;> omega

theorem state_of_remaining_eq_zero (last : watcher.remaining = 0) : watcher.state = .stopped := by
  unfold remaining at last
  split at last
  case h_5 stopped => exact stopped
  all_goals omega

theorem Moves.remaining_lt {action : Action} {next : Watcher × Store}
    (moved : Moves tree store action watcher next) : next.1.remaining < watcher.remaining := by
  cases moved with
  | start idle =>
    unfold started
    cases watchable? tree watcher.path <;> simp [remaining, idle]
  | @take _ notice rest watching notices =>
    -- A notice pays for the reload that it may lead to.
    have after : Watcher.remaining
        { watcher with notices := rest, loaded := none, state := stateAfter watcher.path notice } ≤
          3 * rest.length + 3 := remaining_le _
    have before : watcher.remaining = 3 * (rest.length + 1) + 1 := by
      simp only [remaining, watching, notices, List.length_cons]
    exact Nat.lt_of_le_of_lt after (by omega)
  | exhausted watching => simp [remaining, watching]
  | read reloading unread => simp [remaining, reloading, unread]
  | finish reloading read => simp [remaining, reloading, read]
  | stop watching => simp [remaining, watching]

theorem step_of_nextAction? {action : Action} (chosen : watcher.nextAction? = some action) (tree : FileTree)
    (store : Store) : ∃ next, watcher.step tree action store = some next := by
  unfold nextAction? at chosen
  cases state : watcher.state with
  | idle =>
    simp only [state, Option.some.injEq] at chosen
    subst chosen
    simp [step, state]
  | reloading =>
    simp only [state, Option.some.injEq] at chosen
    subst chosen
    cases loaded : watcher.loaded <;> simp [step, state, loaded]
  | watching =>
    simp only [state] at chosen
    split at chosen
    · rename_i more
      cases chosen
      cases notices : watcher.notices with
      | nil =>
        have closed : watcher.closed = true := by simpa [notices] using more
        simp [step, state, notices, closed]
      | cons notice rest => simp [step, state, notices]
    · split at chosen
      · rename_i requested
        cases chosen
        simp [step, state, requested]
      · cases chosen
  | stopped => simp [state] at chosen

-- With enough steps a watcher goes on until it has nothing to do.
theorem proceed_waits {steps : Nat} (enough : watcher.remaining ≤ steps) :
    (watcher.proceed tree steps store).1.nextAction? = none := by
  induction steps generalizing watcher store with
  | zero =>
    have stopped := state_of_remaining_eq_zero (Nat.le_zero.mp enough)
    simp only [proceed, nextAction?, stopped]
  | succ steps ih =>
    unfold proceed
    cases chosen : watcher.nextAction? with
    | none => exact chosen
    | some action =>
      obtain ⟨next, stepped⟩ := step_of_nextAction? chosen tree store
      have less := (moves_of_step stepped).remaining_lt
      simp only [Option.bind_some, stepped]
      exact ih (by omega)

-- The bound that a watcher is given is never what ends its steps.
theorem settle_waits (tree : FileTree) (watcher : Watcher) (store : Store) :
    (watcher.settle tree store).1.nextAction? = none :=
  proceed_waits (by have bound := remaining_le watcher; unfold stepBound; omega)

/-- What a watcher does on its own is a run in which the file does not change. -/
theorem proceed_run (tree : FileTree) (steps : Nat) (watcher : Watcher) (store : Store) :
    ∃ events, Run ⟨tree, watcher, store⟩ events
      ⟨tree, (watcher.proceed tree steps store).1, (watcher.proceed tree steps store).2⟩ ∧
      .edited ∉ events := by
  induction steps generalizing watcher store with
  | zero => exact ⟨[], .done, List.not_mem_nil⟩
  | succ steps ih =>
    unfold proceed
    cases moved : watcher.nextAction?.bind fun action => watcher.step tree action store with
    | none => exact ⟨[], .done, List.not_mem_nil⟩
    | some next =>
      obtain ⟨action, _, stepped⟩ := Option.bind_eq_some_iff.mp moved
      obtain ⟨events, run, unchanged⟩ := ih next.1 next.2
      by_cases read : action = .read
      · subst read
        exact ⟨_, .next (.read stepped) run, by simp [unchanged]⟩
      · exact ⟨_, .next (.move stepped read) run, by simp [unchanged]⟩

theorem quiet_of_waits (waits : watcher.nextAction? = none) (goesOn : watcher.state ≠ .stopped) :
    World.Quiet ⟨tree, watcher, store⟩ := by
  unfold nextAction? at waits
  cases state : watcher.state with
  | idle => simp [state] at waits
  | reloading => simp [state] at waits
  | watching =>
    simp only [state] at waits
    split at waits
    · cases waits
    · rename_i idle
      have empty : watcher.notices = [] := by
        by_contra more
        exact idle (.inl more)
      refine ⟨by simp [state], ?_⟩
      rw [empty]
      exact nofun
  | stopped => exact absurd state goesOn

/-- Left to itself, a watcher with a notice about the file puts in force what the file says, unless it stops
before. -/
theorem settle_agrees (watching : watcher.state = .watching) {notice : Notice}
    (waiting : notice ∈ watcher.notices) (relevant : concerns watcher.path notice = true) {snapshot : Snapshot}
    (loads : Snapshot.Loads tree watcher.path snapshot)
    (goesOn : (watcher.settle tree store).1.state ≠ .stopped) :
    (watcher.settle tree store).2.current.snapshot.agrees snapshot = true := by
  obtain ⟨events, run, unchanged⟩ := proceed_run tree watcher.stepBound watcher store
  have quiet : World.Quiet ⟨tree, (watcher.settle tree store).1, (watcher.settle tree store).2⟩ :=
    quiet_of_waits (settle_waits tree watcher store) goesOn
  have announced : Announced watcher.path events := announced_of_not_mem unchanged
  have read := run.loads_ne_nil_of_covered announced quiet (.inl (.inl ⟨notice, waiting, relevant⟩))
  exact run.agrees_of_loads (by simp [watching]) announced quiet read loads

end BslLint.Watcher
