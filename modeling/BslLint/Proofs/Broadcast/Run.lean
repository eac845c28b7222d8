import BslLint.Configuration.Store
import BslLint.Proofs.Execution
import Mathlib.Data.List.TakeDrop

/-! Runs of a store with subscribers who come, receive and go at any time. Publications do not overlap, but
anything may happen between their two halves. The events of a run record what each party sees. -/

set_option autoImplicit false

namespace BslLint.Broadcast

inductive Event where
  /-- A publication begins: its edition is in force. -/
  | swapped (edition : Edition)
  /-- A publication ends: its edition has been broadcast. -/
  | announced (edition : Edition)
  | subscribed (id : Nat)
  | dropped (id : Nat)
  | received (id : Nat) (reception : Reception)
  /-- Somebody looks up the edition in force. -/
  | looked (edition : Edition)
  deriving DecidableEq, Repr

/-- A store, whether a publication is under way, and the subscribers by the order of their coming, of which
some have gone. -/
structure World where
  store : Store
  publishing : Bool
  subscribers : List (Option Subscriber)

def World.opened (initial : Snapshot) : World :=
  ⟨.opened initial, false, []⟩

inductive Step : World → Event → World → Prop where
  | swap {store : Store} {subscribers : List (Option Subscriber)} (snapshot : Snapshot) :
      Step ⟨store, false, subscribers⟩ (.swapped (store.swap snapshot).current)
        ⟨store.swap snapshot, true, subscribers⟩
  | announce {store : Store} {subscribers : List (Option Subscriber)} :
      Step ⟨store, true, subscribers⟩ (.announced store.current) ⟨store.announce, false, subscribers⟩
  | subscribe {store : Store} {publishing : Bool} {subscribers : List (Option Subscriber)} :
      Step ⟨store, publishing, subscribers⟩ (.subscribed subscribers.length)
        ⟨store, publishing, subscribers ++ [some store.subscribe]⟩
  | drop {store : Store} {publishing : Bool} {subscribers : List (Option Subscriber)} {id : Nat}
      {subscriber : Subscriber} : subscribers[id]? = some (some subscriber) →
      Step ⟨store, publishing, subscribers⟩ (.dropped id) ⟨store, publishing, subscribers.set id none⟩
  | receive {store : Store} {publishing : Bool} {subscribers : List (Option Subscriber)} {id : Nat}
      {subscriber : Subscriber} : subscribers[id]? = some (some subscriber) →
      Step ⟨store, publishing, subscribers⟩ (.received id (subscriber.receive store).1)
        ⟨store, publishing, subscribers.set id (some (subscriber.receive store).2)⟩
  | look {world : World} : Step world (.looked world.store.current) world

abbrev Run : World → List Event → World → Prop :=
  Execution Step

theorem Step.number_le {world next : World} {event : Event} (stepped : Step world event next) :
    world.store.current.number ≤ next.store.current.number := by
  cases stepped with
  | swap => exact Nat.le_succ _
  | _ => exact Nat.le_refl _

def publications (store : Store) : List Snapshot → List Event
  | [] => []
  | snapshot :: snapshots =>
    .swapped (store.swap snapshot).current :: .announced (store.swap snapshot).current ::
      publications (store.publish snapshot) snapshots

theorem run_publications (store : Store) (subscribers : List (Option Subscriber)) (snapshots : List Snapshot) :
    ∃ final, final.announced.length = store.announced.length + snapshots.length ∧
      Run ⟨store, false, subscribers⟩ (publications store snapshots) ⟨final, false, subscribers⟩ := by
  induction snapshots generalizing store with
  | nil => exact ⟨store, rfl, .done⟩
  | cons snapshot snapshots ih =>
    obtain ⟨final, length, run⟩ := ih (store.publish snapshot)
    refine ⟨final, ?_, .next (.swap snapshot) (.next .announce run)⟩
    rw [length, Store.publish_announced, List.length_append, List.length_singleton, List.length_cons]
    omega

namespace Event

def swapped? : Event → Option Edition
  | .swapped edition => some edition
  | _ => none

def announced? : Event → Option Edition
  | .announced edition => some edition
  | _ => none

def reception? (id : Nat) : Event → Option Reception
  | .received other reception => if other = id then some reception else none
  | _ => none

end Event

/-- The editions that were put in force, in that order. -/
def published (events : List Event) : List Edition :=
  events.filterMap Event.swapped?

-- The editions that were broadcast, in that order.
def broadcasts (events : List Event) : List Edition :=
  events.filterMap Event.announced?

-- What a subscriber has received, in that order.
def receptions (id : Nat) (events : List Event) : List Reception :=
  events.filterMap (Event.reception? id)

theorem broadcasts_append (before after : List Event) :
    broadcasts (before ++ after) = broadcasts before ++ broadcasts after := List.filterMap_append

theorem receptions_append (id : Nat) (before after : List Event) :
    receptions id (before ++ after) = receptions id before ++ receptions id after := List.filterMap_append

theorem published_concat (events : List Event) (event : Event) :
    published (events ++ [event]) = published events ++ event.swapped?.toList := by
  rw [published, List.filterMap_append]
  cases event <;> rfl

theorem broadcasts_concat (events : List Event) (event : Event) :
    broadcasts (events ++ [event]) = broadcasts events ++ event.announced?.toList := by
  rw [broadcasts_append]
  cases event <;> rfl

theorem receptions_concat (id : Nat) (events : List Event) (event : Event) :
    receptions id (events ++ [event]) = receptions id events ++ (event.reception? id).toList := by
  rw [receptions_append]
  congr 1

theorem broadcasts_received (events : List Event) (id : Nat) (reception : Reception) :
    broadcasts (events ++ [.received id reception]) = broadcasts events := by
  rw [broadcasts_concat]
  exact List.append_nil _

theorem receptions_received (events : List Event) (id : Nat) (reception : Reception) :
    receptions id (events ++ [.received id reception]) = receptions id events ++ [reception] := by
  rw [receptions_concat]
  simp [Event.reception?]

/-- The edition in force is the one that was published last, and each that was published is broadcast, but for
one whose publication is under way. -/
structure Settled (initial : Snapshot) (past : List Event) (world : World) : Prop where
  current : (⟨0, initial⟩ :: published past).getLast? = some world.store.current
  ascending : (⟨0, initial⟩ :: published past).Pairwise fun earlier later => earlier.number < later.number
  bounded : ∀ edition ∈ ⟨0, initial⟩ :: published past, edition.number ≤ world.store.current.number
  announced : world.store.announced = broadcasts past
  pending : published past =
    world.store.announced ++ if world.publishing then [world.store.current] else []

theorem settled_opened (initial : Snapshot) : Settled initial [] (.opened initial) where
  current := rfl
  ascending := List.pairwise_singleton _ _
  bounded edition mem := by rw [List.mem_singleton.mp mem]; exact Nat.le_refl 0
  announced := rfl
  pending := rfl

theorem Settled.step {initial : Snapshot} {past : List Event} {world next : World} {event : Event}
    (settled : Settled initial past world) (stepped : Step world event next) :
    Settled initial (past ++ [event]) next := by
  obtain ⟨current, ascending, bounded, announced, pending⟩ := settled
  cases stepped with
  | @swap store subscribers snapshot =>
    have new : published (past ++ [.swapped (store.swap snapshot).current]) =
        published past ++ [(store.swap snapshot).current] := published_concat _ _
    have newest {edition : Edition} (mem : edition ∈ ⟨0, initial⟩ :: published past) :
        edition.number < (store.swap snapshot).current.number := Nat.lt_succ_of_le (bounded edition mem)
    refine ⟨?_, ?_, ?_, ?_, ?_⟩
    · rw [new, ← List.cons_append, List.getLast?_concat]
    · rw [new, ← List.cons_append, List.pairwise_append]
      refine ⟨ascending, List.pairwise_singleton _ _, ?_⟩
      intro earlier mem later last
      cases List.mem_singleton.mp last
      exact newest mem
    · intro edition mem
      rw [new, ← List.cons_append] at mem
      rcases List.mem_append.mp mem with old | last
      · exact Nat.le_of_lt (newest old)
      · cases List.mem_singleton.mp last
        exact Nat.le_refl _
    · rw [broadcasts_concat]
      exact announced.trans (List.append_nil _).symm
    · rw [new, pending, if_neg Bool.false_ne_true, if_pos rfl, List.append_nil]
      rfl
  | @announce store subscribers =>
    have same : published (past ++ [.announced store.current]) = published past := by
      rw [published_concat]
      exact List.append_nil _
    refine ⟨same ▸ current, same ▸ ascending, fun edition mem => bounded edition (same ▸ mem), ?_, ?_⟩
    · rw [broadcasts_concat, ← announced]
      rfl
    · rw [same, pending, if_pos rfl, if_neg Bool.false_ne_true, List.append_nil]
      rfl
  | _ =>
    refine ⟨?_, ?_, ?_, ?_, ?_⟩
    all_goals simpa only [published_concat, broadcasts_concat, Event.swapped?, Event.announced?,
      Option.toList_none, List.append_nil]

theorem Run.settled {initial : Snapshot} {world : World} {events : List Event}
    (run : Run (.opened initial) events world) : Settled initial events world :=
  run.induct (Settled initial) Settled.step [] (settled_opened initial)

end BslLint.Broadcast
