import BslLint.Proofs.Broadcast.Run
import Mathlib.Data.List.Basic

/-! What subscribers receive accounts for what was broadcast since they subscribed: each edition is received
once, in its turn, or counted as lost. What is left for a subscriber is a queue of which the newest editions
stay available. -/

set_option autoImplicit false

namespace BslLint.Broadcast

def Reception.edition? : Reception → Option Edition
  | .edition edition => some edition
  | _ => none

-- The receptions account for the editions, one by one or by their number.
inductive Accounts : List Reception → List Edition → Prop where
  | nil : Accounts [] []
  | empty {log : List Reception} {editions : List Edition} : Accounts log editions →
      Accounts (.empty :: log) editions
  | edition {log : List Reception} {editions : List Edition} (edition : Edition) : Accounts log editions →
      Accounts (.edition edition :: log) (edition :: editions)
  | lagged {log : List Reception} {lost editions : List Edition} : lost ≠ [] → Accounts log editions →
      Accounts (.lagged lost.length :: log) (lost ++ editions)

/-- What a reception makes of a queue of editions. Of more editions than the store keeps, only the newest
stay. -/
inductive Delivers : List Edition → Reception → List Edition → Prop where
  | empty : Delivers [] .empty []
  | edition {edition : Edition} {rest : List Edition} : (edition :: rest).length ≤ Store.capacity →
      Delivers (edition :: rest) (.edition edition) rest
  | lagged {lost kept : List Edition} : lost ≠ [] → kept.length = Store.capacity →
      Delivers (lost ++ kept) (.lagged lost.length) kept

theorem Accounts.append {first second : List Reception} {earlier later : List Edition}
    (left : Accounts first earlier) (right : Accounts second later) :
    Accounts (first ++ second) (earlier ++ later) := by
  induction left with
  | nil => exact right
  | empty _ ih => exact .empty ih
  | edition edition _ ih => exact .edition edition ih
  | lagged some _ ih =>
    rw [List.append_assoc]
    exact .lagged some ih

theorem Accounts.sublist {log : List Reception} {editions : List Edition} (accounts : Accounts log editions) :
    (log.filterMap Reception.edition?).Sublist editions := by
  induction accounts with
  | nil => exact .slnil
  | empty _ ih => exact ih
  | edition edition _ ih => exact ih.cons_cons edition
  | @lagged log lost _ _ _ ih => exact ih.trans (List.sublist_append_right lost _)

theorem Delivers.accounts {queue rest : List Edition} {reception : Reception}
    (delivers : Delivers queue reception rest) :
    ∃ delivered, queue = delivered ++ rest ∧ Accounts [reception] delivered := by
  cases delivers with
  | empty => exact ⟨[], rfl, .empty .nil⟩
  | @edition edition rest bounded => exact ⟨[edition], rfl, .edition edition .nil⟩
  | @lagged lost kept some full =>
    refine ⟨lost, rfl, ?_⟩
    simpa using Accounts.lagged some .nil

-- A loss leaves as many editions as the store keeps.
theorem Delivers.full {queue rest : List Edition} {count : Nat}
    (delivers : Delivers queue (.lagged count) rest) : rest.length = Store.capacity := by
  cases delivers with
  | lagged _ full => exact full

/-- After a loss there is an edition to receive: the oldest that is kept. -/
theorem Delivers.next {queue rest others : List Edition} {count : Nat} {following : Reception}
    (delivers : Delivers queue (.lagged count) rest) (again : Delivers rest following others) :
    ∃ oldest, rest = oldest :: others ∧ following = .edition oldest := by
  have full := delivers.full
  cases again with
  | empty => cases full
  | edition => exact ⟨_, rfl, rfl⟩
  | lagged some kept =>
    rw [List.length_append, kept] at full
    have none := List.length_pos_iff.mpr some
    omega

theorem delivers_lagged {queue lost kept : List Edition} {count : Nat} (split : lost ++ kept = queue)
    (number : lost.length = count) (some : 0 < count) (full : kept.length = Store.capacity) :
    Delivers queue (.lagged count) kept := by
  subst split number
  exact .lagged (List.length_pos_iff.mp some) full

-- Who has emptied a queue has received its last edition last.
theorem Delivers.latest {queue rest before all : List Edition} {reception : Reception}
    {log : List Reception} (delivers : Delivers queue reception rest) (drained : rest = [])
    (split : before ++ queue = all)
    (earlier : queue = [] → (log.filterMap Reception.edition?).getLast? = all.getLast?) :
    ((log ++ [reception]).filterMap Reception.edition?).getLast? = all.getLast? := by
  rw [List.filterMap_append]
  cases delivers with
  | empty =>
    rw [← earlier rfl]
    exact congrArg _ (List.append_nil _)
  | edition bounded =>
    rw [← split, drained, List.getLast?_concat]
    exact List.getLast?_concat
  | lagged some full =>
    -- What is kept of a queue that was too long is not empty.
    rw [drained] at full
    cases full

/-- A subscriber's queue is what was announced after the announcements behind it. -/
theorem receive_delivers {subscriber : Subscriber} {store : Store}
    (behind : subscriber.passed ≤ store.announced.length) :
    Delivers (store.announced.drop subscriber.passed) (subscriber.receive store).1
      (store.announced.drop (subscriber.receive store).2.passed) := by
  unfold Subscriber.receive
  split
  · rename_i lagging
    have split := List.drop_take_append_drop store.announced subscriber.passed
      (store.oldest - subscriber.passed)
    rw [Nat.add_sub_cancel' (Nat.le_of_lt lagging)] at split
    unfold Store.oldest at lagging split ⊢
    apply delivers_lagged split
    · rw [List.length_take, List.length_drop]
      omega
    · omega
    · rw [List.length_drop]
      omega
  · rename_i keeping
    unfold Store.oldest at keeping
    cases found : store.announced[subscriber.passed]? with
    | none =>
      have drained : store.announced.drop subscriber.passed = [] :=
        List.drop_eq_nil_iff.mpr (List.getElem?_eq_none_iff.mp found)
      simp only [drained]
      exact .empty
    | some edition =>
      obtain ⟨inside, same⟩ := List.getElem?_eq_some_iff.mp found
      have split := List.drop_eq_getElem_cons inside
      rw [same] at split
      simp only [split]
      refine .edition ?_
      rw [← split, List.length_drop]
      omega

theorem receive_passed_le {subscriber : Subscriber} {store : Store}
    (behind : subscriber.passed ≤ store.announced.length) :
    (subscriber.receive store).2.passed ≤ store.announced.length := by
  unfold Subscriber.receive
  split
  · exact Nat.sub_le _ _
  · split
    · exact behind
    · exact (List.getElem?_eq_some_iff.mp ‹_›).1

/-- What is left of the broadcasts once those are taken away that the receptions account for. -/
def Pending (id : Nat) (events : List Event) (queue : List Edition) : Prop :=
  ∃ accounted, broadcasts events = accounted ++ queue ∧ Accounts (receptions id events) accounted

/-- A subscriber in a run since it subscribed, with how many announcements are behind it. -/
structure Follows (id passed : Nat) (events : List Event) (world : World) : Prop where
  known : id < world.subscribers.length
  place : ∀ subscriber, world.subscribers[id]? = some (some subscriber) → subscriber.passed = passed
  behind : passed ≤ world.store.announced.length
  pending : Pending id events (world.store.announced.drop passed)
  latest : world.store.announced.drop passed = [] → broadcasts events ≠ [] →
    ((receptions id events).filterMap Reception.edition?).getLast? = world.store.announced.getLast?

theorem Pending.step {id : Nat} {events : List Event} {queue rest : List Edition} {reception : Reception}
    (pending : Pending id events queue) (delivers : Delivers queue reception rest) :
    Pending id (events ++ [.received id reception]) rest := by
  obtain ⟨accounted, split, accounts⟩ := pending
  obtain ⟨delivered, rfl, more⟩ := delivers.accounts
  refine ⟨accounted ++ delivered, ?_, ?_⟩
  · rw [broadcasts_received, split, List.append_assoc]
  · rw [receptions_received]
    exact accounts.append more

theorem Pending.silent {id : Nat} {events between : List Event} {queue : List Edition}
    (pending : Pending id events queue) (silent : broadcasts between = [])
    (unread : receptions id between = []) : Pending id (events ++ between) queue := by
  obtain ⟨accounted, split, accounts⟩ := pending
  refine ⟨accounted, ?_, ?_⟩
  · rw [broadcasts_append, silent, List.append_nil, split]
  · rw [receptions_append, unread, List.append_nil]
    exact accounts

/-- Events that are no broadcast and no reception of the subscriber do not matter to it. -/
theorem Follows.elsewhere {id passed : Nat} {events : List Event} {world next : World} {event : Event}
    (follows : Follows id passed events world) (silent : event.announced? = none)
    (others : event.reception? id = none) (store : next.store.announced = world.store.announced)
    (known : id < next.subscribers.length)
    (place : ∀ subscriber, next.subscribers[id]? = some (some subscriber) → subscriber.passed = passed) :
    Follows id passed (events ++ [event]) next := by
  have same : broadcasts (events ++ [event]) = broadcasts events := by
    rw [broadcasts_concat, silent]
    exact List.append_nil _
  have log : receptions id (events ++ [event]) = receptions id events := by
    rw [receptions_concat, others]
    exact List.append_nil _
  refine ⟨known, place, store ▸ follows.behind, ?_, ?_⟩
  · unfold Pending
    rw [same, log, store]
    exact follows.pending
  · rw [same, log, store]
    exact follows.latest

theorem Follows.announce {id passed : Nat} {events : List Event} {store : Store}
    {subscribers : List (Option Subscriber)} (follows : Follows id passed events ⟨store, true, subscribers⟩) :
    Follows id passed (events ++ [.announced store.current]) ⟨store.announce, false, subscribers⟩ := by
  have longer : store.announce.announced.drop passed = store.announced.drop passed ++ [store.current] :=
    List.drop_append_of_le_length follows.behind
  refine ⟨follows.known, follows.place, ?_, ?_, ?_⟩
  · exact Nat.le_trans follows.behind (by simp [Store.announce])
  · obtain ⟨accounted, split, accounts⟩ := follows.pending
    refine ⟨accounted, ?_, ?_⟩
    · rw [broadcasts_concat, split, longer, List.append_assoc]
      rfl
    · rw [receptions_concat]
      simpa [Event.reception?] using accounts
  · intro drained
    rw [longer] at drained
    simp at drained

theorem Follows.receive {id : Nat} {events : List Event} {store : Store} {publishing : Bool}
    {subscribers : List (Option Subscriber)} {subscriber : Subscriber}
    (follows : Follows id subscriber.passed events ⟨store, publishing, subscribers⟩) :
    Follows id (subscriber.receive store).2.passed (events ++ [.received id (subscriber.receive store).1])
      ⟨store, publishing, subscribers.set id (some (subscriber.receive store).2)⟩ := by
  have delivers := receive_delivers follows.behind
  refine ⟨?_, ?_, receive_passed_le follows.behind, follows.pending.step delivers, ?_⟩
  · simpa using follows.known
  · intro other found
    rw [List.getElem?_set_self follows.known] at found
    cases found
    rfl
  · intro drained some
    rw [broadcasts_received] at some
    rw [receptions_received]
    exact delivers.latest drained (List.take_append_drop _ _) fun empty => follows.latest empty some

theorem Follows.step {id passed : Nat} {events : List Event} {world next : World} {event : Event}
    (follows : Follows id passed events world) (stepped : Step world event next) :
    ∃ passed, Follows id passed (events ++ [event]) next := by
  cases stepped with
  | swap snapshot => exact ⟨passed, follows.elsewhere rfl rfl rfl follows.known follows.place⟩
  | announce => exact ⟨passed, follows.announce⟩
  | @subscribe store publishing subscribers =>
    refine ⟨passed, follows.elsewhere rfl rfl rfl ?_ ?_⟩
    · exact Nat.lt_of_lt_of_le follows.known (by simp)
    · intro subscriber found
      rw [List.getElem?_append_left follows.known] at found
      exact follows.place subscriber found
  | @drop store publishing subscribers other gone there =>
    refine ⟨passed, follows.elsewhere rfl rfl rfl ?_ ?_⟩
    · simpa using follows.known
    · intro subscriber found
      rw [List.getElem?_set] at found
      split at found
      · simp at found
      · exact follows.place subscriber found
  | @receive store publishing subscribers other subscriber there =>
    by_cases same : other = id
    · subst same
      have place := follows.place subscriber there
      subst place
      exact ⟨_, follows.receive⟩
    · refine ⟨passed, follows.elsewhere rfl (if_neg same) rfl ?_ ?_⟩
      · simpa using follows.known
      · intro subscriber found
        rw [List.getElem?_set_ne same] at found
        exact follows.place subscriber found
  | look => exact ⟨passed, follows.elsewhere rfl rfl rfl follows.known follows.place⟩

theorem Run.follows {start world : World} {id : Nat} {events : List Event}
    (run : Run start (.subscribed id :: events) world) : ∃ passed, Follows id passed events world := by
  cases run with
  | @next _ next _ _ _ stepped rest =>
    have base : ∃ passed, Follows id passed [] next := by
      cases stepped with
      | @subscribe store publishing subscribers =>
        refine ⟨store.announced.length, ?_, ?_, Nat.le_refl _, ⟨[], ?_, .nil⟩, ?_⟩
        · simp
        · intro subscriber found
          simp only [List.getElem?_concat_length, Option.some.injEq] at found
          subst found
          rfl
        · exact List.drop_length.symm
        · exact fun _ some => absurd rfl some
    exact rest.induct (fun events world => ∃ passed, Follows id passed events world)
      (fun ⟨_, follows⟩ stepped => follows.step stepped) [] base

-- Receptions say how many editions they account for, and so what is pending.
theorem Accounts.length_eq {log : List Reception} {left right : List Edition} (first : Accounts log left)
    (second : Accounts log right) : left.length = right.length := by
  induction first generalizing right with
  | nil =>
    cases second
    rfl
  | empty _ ih =>
    cases second with
    | empty second => exact ih second
  | edition edition _ ih =>
    cases second with
    | edition _ second => exact congrArg (· + 1) (ih second)
  | @lagged log lost editions some _ ih =>
    generalize count : lost.length = n at second
    cases second with
    | lagged _ second => rw [List.length_append, List.length_append, count, ih second]

theorem Pending.unique {id : Nat} {events : List Event} {left right : List Edition}
    (first : Pending id events left) (second : Pending id events right) : left = right := by
  obtain ⟨accounted, split, accounts⟩ := first
  obtain ⟨others, same, again⟩ := second
  exact (List.append_inj (split.symm.trans same) (accounts.length_eq again)).2

section

variable {initial : Snapshot} {world next : World} {before after : List Event} {id : Nat}
  {queue : List Edition} {reception : Reception}

theorem Run.pending (run : Run (.opened initial) (before ++ .subscribed id :: after) world) :
    ∃ passed, Follows id passed after world :=
  let ⟨_, _, later⟩ := run.split
  Run.follows later

theorem Run.delivers (run : Run (.opened initial) (before ++ .subscribed id :: after) world)
    (pending : Pending id after queue) (stepped : Step world (.received id reception) next) :
    ∃ rest, Delivers queue reception rest := by
  obtain ⟨passed, follows⟩ := run.pending
  cases stepped with
  | @receive store publishing subscribers _ subscriber there =>
    have place := follows.place subscriber there
    subst place
    -- The receptions say how much is pending, so it is what the subscriber's place says.
    rw [pending.unique follows.pending]
    exact ⟨_, receive_delivers follows.behind⟩

/-- What is pending for a subscriber has been published, and the edition in force is none before it. -/
theorem Run.current_of_pending (run : Run (.opened initial) (before ++ .subscribed id :: after) world)
    {edition : Edition} (pending : Pending id after queue) (mem : edition ∈ queue) :
    ∃ older newer, published (before ++ .subscribed id :: after) = older ++ edition :: newer ∧
      (edition :: newer).getLast? = some world.store.current := by
  obtain ⟨accounted, split, _⟩ := pending
  have settled := run.settled
  have broadcast : edition ∈ broadcasts (before ++ .subscribed id :: after) := by
    have later : edition ∈ broadcasts after := split ▸ List.mem_append_right accounted mem
    rw [broadcasts_append]
    exact List.mem_append_right _ later
  have issued : edition ∈ published (before ++ .subscribed id :: after) := by
    rw [settled.pending, settled.announced]
    exact List.mem_append_left _ broadcast
  obtain ⟨older, newer, split⟩ := List.append_of_mem issued
  refine ⟨older, newer, split, ?_⟩
  have current := settled.current
  rwa [split, ← List.cons_append, List.getLast?_append_of_ne_nil _ (List.cons_ne_nil _ _)] at current

/-- Who has received all that was broadcast has received the edition in force last. -/
theorem Run.current_of_drained (run : Run (.opened initial) (before ++ .subscribed id :: after) world)
    (pending : Pending id after []) (settled : world.publishing = false) (any : broadcasts after ≠ []) :
    ((receptions id after).filterMap Reception.edition?).getLast? = some world.store.current := by
  obtain ⟨passed, follows⟩ := run.pending
  rw [follows.latest (pending.unique follows.pending).symm any]
  have invariant := run.settled
  have issued := invariant.pending
  rw [settled, if_neg Bool.false_ne_true, List.append_nil] at issued
  have nonempty : world.store.announced ≠ [] := by
    rw [invariant.announced, broadcasts_append]
    exact List.append_ne_nil_of_right_ne_nil _ any
  have current := invariant.current
  rwa [issued, List.getLast?_cons_of_ne_nil nonempty] at current

theorem Run.received_ascending (run : Run (.opened initial) (before ++ .subscribed id :: after) world)
    (pending : Pending id after queue) :
    ((receptions id after).filterMap Reception.edition?).Pairwise
      fun earlier later => earlier.number < later.number := by
  obtain ⟨accounted, split, accounts⟩ := pending
  have settled := run.settled
  -- What is received is part of what is broadcast, and that of what is published, in the same order.
  have broadcast : accounted.Sublist (published (before ++ .subscribed id :: after)) := by
    have later : accounted.Sublist (broadcasts after) := split ▸ List.sublist_append_left accounted queue
    rw [settled.pending, settled.announced, broadcasts_append]
    exact (later.trans (List.sublist_append_right _ _)).trans (List.sublist_append_left _ _)
  exact (List.pairwise_cons.mp settled.ascending).2.sublist (accounts.sublist.trans broadcast)

end

/-- What a subscriber receives, with the numbers of what it has lost, accounts for a beginning of what was
broadcast since it subscribed, in the order of publication; once that is all of it, and no publication is under
way, the edition in force is the one received last. Of what is left, only the newest editions wait that the
store keeps; after a loss the oldest of those comes next. The edition in force is never older than one just
received. -/
theorem receptions_accounted {initial : Snapshot} {world : World} {before after : List Event} {id : Nat}
    (run : Run (.opened initial) (before ++ .subscribed id :: after) world) :
    ∃ queue, Pending id after queue ∧
      ((receptions id after).filterMap Reception.edition?).Pairwise
        (fun earlier later => earlier.number < later.number) ∧
      (queue = [] → world.publishing = false → broadcasts after ≠ [] →
        ((receptions id after).filterMap Reception.edition?).getLast? = some world.store.current) ∧
      ∀ reception next, Step world (.received id reception) next →
        ∃ rest, Delivers queue reception rest ∧ Pending id (after ++ [.received id reception]) rest ∧
          (∀ count between final following last, reception = .lagged count → Run next between final →
            broadcasts between = [] → receptions id between = [] → Step final (.received id following) last →
            ∃ oldest others, rest = oldest :: others ∧ following = .edition oldest) ∧
          ∀ edition, reception = .edition edition → ∃ older newer,
            published (before ++ .subscribed id :: after) = older ++ edition :: newer ∧
              (edition :: newer).getLast? = some world.store.current := by
  obtain ⟨queue, pending⟩ : ∃ queue, Pending id after queue :=
    let ⟨_, follows⟩ := run.pending
    ⟨_, follows.pending⟩
  refine ⟨queue, pending, run.received_ascending pending, ?_, ?_⟩
  · rintro rfl
    exact run.current_of_drained pending
  intro reception next stepped
  obtain ⟨rest, delivers⟩ := run.delivers pending stepped
  refine ⟨rest, delivers, pending.step delivers, ?_, ?_⟩
  · rintro count between final following last rfl continued silent unread again
    have longer : Run _ ((before ++ .subscribed id :: after) ++ .received id (.lagged count) :: between) final :=
      run.append (.next stepped continued)
    rw [List.append_assoc, List.cons_append] at longer
    have waiting : Pending id (after ++ .received id (.lagged count) :: between) rest := by
      rw [List.append_cons]
      exact (pending.step delivers).silent silent unread
    obtain ⟨others, deliversNext⟩ := longer.delivers waiting again
    obtain ⟨oldest, same, received⟩ := delivers.next deliversNext
    exact ⟨oldest, others, same, received⟩
  · rintro edition rfl
    refine run.current_of_pending pending ?_
    cases delivers with
    | edition => exact List.mem_cons_self

/-- Who is away for seventeen publications loses one of them, and still receives the others. -/
theorem receptions_accounted_seventeen :
    let events := publications (.opened .standard) (List.replicate 17 .standard)
    ∃ world next rest, Run (.opened .standard) ([] ++ .subscribed 0 :: events) world ∧
      Step world (.received 0 (.lagged 1)) next ∧ rest.length = Store.capacity ∧
      Pending 0 (events ++ [.received 0 (.lagged 1)]) rest := by
  intro events
  obtain ⟨store, length, run⟩ := run_publications (.opened .standard) [some ⟨0⟩] (List.replicate 17 .standard)
  have received : (⟨0⟩ : Subscriber).receive store = (.lagged 1, ⟨1⟩) := by
    simp [Subscriber.receive, Store.oldest, length, Store.opened, Store.capacity]
  have stepped : Step ⟨store, false, [some ⟨0⟩]⟩ (.received 0 (.lagged 1)) ⟨store, false, [some ⟨1⟩]⟩ := by
    have step := @Step.receive store false [some ⟨0⟩] 0 ⟨0⟩ rfl
    rw [received] at step
    exact step
  have subscribed : Step (.opened .standard) (.subscribed 0) ⟨.opened .standard, false, [some ⟨0⟩]⟩ := .subscribe
  have whole : Run (.opened .standard) ([] ++ .subscribed 0 :: events) ⟨store, false, [some ⟨0⟩]⟩ :=
    .next subscribed run
  obtain ⟨queue, _, _, _, receives⟩ := receptions_accounted whole
  obtain ⟨rest, delivers, pending, _⟩ := receives _ _ stepped
  exact ⟨_, _, rest, whole, stepped, delivers.full, pending⟩

end BslLint.Broadcast
