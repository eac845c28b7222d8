import BslLint.Proofs.Watching.Run

/-! Whether what a watcher has read last is still what the file says. A notice about the file makes a reading
due; a due reading stays due until it is made, and then it is up to date. -/

set_option autoImplicit false

namespace BslLint.Watcher

/-- Every change of the watched file is followed by a notice about it. -/
def Announced (path : Path) (events : List Event) : Prop :=
  ∀ before after, events = before ++ .edited :: after →
    ∃ notice, .noticed notice ∈ after ∧ concerns path notice = true

theorem Announced.tail {path : Path} {event : Event} {events : List Event}
    (announced : Announced path (event :: events)) : Announced path events := by
  intro before after same
  exact announced (event :: before) after (by rw [same, List.cons_append])

theorem Announced.of_append {path : Path} {before after : List Event}
    (announced : Announced path (before ++ after)) : Announced path after := by
  induction before with
  | nil => exact announced
  | cons event before ih => exact ih announced.tail

theorem announced_of_not_mem {path : Path} {events : List Event} (unchanged : .edited ∉ events) :
    Announced path events := by
  rintro before after rfl
  exact absurd (List.mem_append_right before (.head after)) unchanged

theorem Announced.edited {path : Path} {events : List Event} (announced : Announced path events)
    {notice : Notice} (noticed : .noticed notice ∈ events) (relevant : concerns path notice = true) :
    Announced path (.edited :: events) := by
  intro before after same
  cases before with
  | nil =>
    cases same
    exact ⟨notice, noticed, relevant⟩
  | cons event before =>
    cases same
    exact announced before after rfl

def World.reading (world : World) : Except ConfigurationError Snapshot :=
  Snapshot.load world.tree world.watcher.path

/-- No reload is under way, and no notice about the file waits. -/
structure World.Quiet (world : World) : Prop where
  notReloading : world.watcher.state ≠ .reloading
  unconcerned : ∀ notice ∈ world.watcher.notices, concerns world.watcher.path notice = false

def World.Due (world : World) : Prop :=
  (∃ notice ∈ world.watcher.notices, concerns world.watcher.path notice = true) ∨
    world.watcher.state = .reloading ∧ world.watcher.loaded = none

theorem World.Quiet.not_due {world : World} (quiet : world.Quiet) : ¬ world.Due := by
  rintro (⟨notice, waiting, relevant⟩ | ⟨reloading, _⟩)
  · rw [quiet.unconcerned notice waiting] at relevant
    cases relevant
  · exact quiet.notReloading reloading

theorem stateAfter_of_concerns {path : Path} {notice : Notice} (relevant : concerns path notice = true) :
    stateAfter path notice = .reloading := by
  cases notice with
  | changed names => exact if_pos relevant
  | touched names => cases relevant
  | failed => cases relevant

theorem Moves.due {tree : FileTree} {store : Store} {action : Action} {watcher : Watcher}
    {next : Watcher × Store} (moved : Moves tree store action watcher next)
    (due : World.Due ⟨tree, watcher, store⟩) : action = .read ∨ World.Due ⟨tree, next.1, next.2⟩ := by
  -- Only in a reload can a reading be due without a notice that waits.
  cases moved with
  | read => exact .inl rfl
  | start idle =>
    have waiting := due.resolve_right (by simp [idle])
    right
    left
    unfold started
    cases watchable? tree watcher.path <;> exact waiting
  | @take _ first rest watching notices =>
    obtain ⟨notice, waiting, relevant⟩ := due.resolve_right (by simp [watching])
    rw [notices] at waiting
    right
    rcases List.mem_cons.mp waiting with rfl | later
    · exact .inr ⟨stateAfter_of_concerns relevant, rfl⟩
    · exact .inl ⟨notice, later, relevant⟩
  | exhausted watching notices closed =>
    obtain ⟨notice, waiting, _⟩ := due.resolve_right (by simp [watching])
    rw [notices] at waiting
    cases waiting
  | finish reloading loaded => exact .inr (.inl (due.resolve_right (by simp [loaded])))
  | stop watching requested => exact .inr (.inl (due.resolve_right (by simp [watching])))

theorem Step.due {world next : World} {event : Event} (stepped : Step world event next) (due : world.Due) :
    event = .loaded world.reading ∨ next.Due := by
  cases stepped with
  | read => exact .inl rfl
  | move stepped other => exact .inr (((moves_of_step stepped).due due).resolve_left other)
  | notice notice =>
    right
    rcases due with ⟨other, waiting, relevant⟩ | unread
    · exact .inl ⟨other, List.mem_append_left _ waiting, relevant⟩
    · exact .inr unread
  | _ => exact .inr due

theorem Step.due_of_noticed {world next : World} {notice : Notice}
    (stepped : Step world (.noticed notice) next) (relevant : concerns world.watcher.path notice = true) : next.Due := by
  cases stepped with
  | notice => exact .inl ⟨notice, List.mem_append_right _ (List.mem_singleton_self notice), relevant⟩

/-- Only changes of the file change what it says, and reloads read just that. -/
theorem Step.reading_eq {world next : World} {event : Event} (stepped : Step world event next)
    (unchanged : event ≠ .edited) : next.reading = world.reading := by
  cases stepped with
  | edit => exact absurd rfl unchanged
  | elsewhere same => simp only [World.reading, Snapshot.load, same]
  | read stepped => exact congrArg (Snapshot.load _) (moves_of_step stepped).path_eq
  | move stepped _ => exact congrArg (Snapshot.load _) (moves_of_step stepped).path_eq
  | _ => rfl

theorem Step.loaded_eq {world next : World} {result : Except ConfigurationError Snapshot}
    (stepped : Step world (.loaded result) next) : result = world.reading := by
  cases stepped with
  | read => rfl

/-- What was read last is what the file says, or will be before a run ends quietly that goes on with these
events. -/
def World.Covered (world : World) (events : List Event) (last : Option (Except ConfigurationError Snapshot)) :
    Prop :=
  world.Due ∨ (∃ notice, .noticed notice ∈ events ∧ concerns world.watcher.path notice = true) ∨
    last = some world.reading

theorem Step.covered {world next : World} {event : Event} {events : List Event}
    (stepped : Step world event next) (announced : Announced world.watcher.path (event :: events))
    {last : Option (Except ConfigurationError Snapshot)} (covered : world.Covered (event :: events) last) :
    next.Covered events (event.loaded?.or last) := by
  have read : event = .loaded world.reading → next.Covered events (event.loaded?.or last) := by
    rintro rfl
    exact .inr (.inr (congrArg some (stepped.reading_eq nofun).symm))
  rcases covered with due | ⟨notice, noticed, relevant⟩ | fresh
  · rcases stepped.due due with loaded | due
    · exact read loaded
    · exact .inl due
  · rcases List.mem_cons.mp noticed with rfl | later
    · exact .inl (stepped.due_of_noticed relevant)
    · exact .inr (.inl ⟨notice, later, stepped.path_eq ▸ relevant⟩)
  · cases event with
    | edited =>
      -- What was read is out of date now, but the rest of the run has a notice about it.
      obtain ⟨notice, noticed, relevant⟩ := announced [] events rfl
      exact .inr (.inl ⟨notice, noticed, stepped.path_eq ▸ relevant⟩)
    | loaded result => exact read (congrArg Event.loaded stepped.loaded_eq)
    | _ => exact .inr (.inr (stepped.reading_eq nofun ▸ fresh))

theorem last_load_cons (event : Event) (events : List Event)
    (last : Option (Except ConfigurationError Snapshot)) :
    (Event.loads (event :: events)).getLast?.or last =
      (Event.loads events).getLast?.or (event.loaded?.or last) := by
  rw [Event.loads_cons, List.getLast?_append, Option.or_assoc]
  cases event <;> rfl

theorem Run.last_load_of_covered {start final : World} {events : List Event} (run : Run start events final)
    (announced : Announced start.watcher.path events) (quiet : final.Quiet)
    {last : Option (Except ConfigurationError Snapshot)} (covered : start.Covered events last) :
    (Event.loads events).getLast?.or last = some final.reading := by
  -- Of the three reasons only an up-to-date reading can be left at the end.
  induction run generalizing last with
  | done =>
    rcases covered with due | ⟨_, noticed, _⟩ | fresh
    · exact absurd due quiet.not_due
    · cases noticed
    · exact fresh
  | next stepped _ ih =>
    rw [last_load_cons]
    exact ih (stepped.path_eq ▸ announced.tail) quiet (stepped.covered announced covered)

/-- When the file has been read at all, what was read last is what it says once all is quiet. -/
theorem Run.last_load_of_loads {start final : World} {events : List Event} (run : Run start events final)
    (announced : Announced start.watcher.path events) (quiet : final.Quiet)
    (read : Event.loads events ≠ []) : (Event.loads events).getLast? = some final.reading := by
  -- The first reading is fresh when it is made, and from then on the rest of the run is covered.
  induction run with
  | done => exact absurd rfl read
  | @next world next final event events stepped rest ih =>
    have later : Announced next.watcher.path events := stepped.path_eq ▸ announced.tail
    cases event with
    | loaded result =>
      have fresh : some result = some next.reading := by
        rw [stepped.reading_eq nofun, stepped.loaded_eq]
      have last := Run.last_load_of_covered rest later quiet (.inr (.inr fresh))
      rw [← last, ← Option.or_none (o := (Event.loads _).getLast?), last_load_cons]
      rfl
    | _ => exact ih later quiet read

theorem Run.loads_ne_nil_of_covered {start final : World} {events : List Event} (run : Run start events final)
    (announced : Announced start.watcher.path events) (quiet : final.Quiet)
    (covered : start.Covered events none) :
    Event.loads events ≠ [] := by
  have last := run.last_load_of_covered announced quiet covered
  intro unread
  rw [unread] at last
  cases last

-- Changes that are announced have been read once all is quiet.
theorem Run.loads_ne_nil {start final : World} {events : List Event} (run : Run start events final)
    (announced : Announced start.watcher.path events) (quiet : final.Quiet) (changed : .edited ∈ events) :
    Event.loads events ≠ [] := by
  obtain ⟨before, after, rfl⟩ := List.append_of_mem changed
  obtain ⟨notice, noticed, relevant⟩ := announced before after rfl
  have later : .noticed notice ∈ before ++ .edited :: after := List.mem_append_right _ (.tail _ noticed)
  exact run.loads_ne_nil_of_covered announced quiet (.inr (.inl ⟨notice, later, relevant⟩))

end BslLint.Watcher
