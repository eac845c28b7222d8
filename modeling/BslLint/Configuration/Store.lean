import BslLint.Configuration.Snapshot

/-! The current configuration, and those who are told about changes. Each published snapshot is an
edition of its own, even when it equals an earlier one. -/

set_option autoImplicit false

namespace BslLint

/-- A snapshot with its place in the order of publication; the initial one has place zero. -/
structure Edition where
  number : Nat
  snapshot : Snapshot
  deriving DecidableEq, Repr

structure Store where
  current : Edition
  announced : List Edition
  deriving DecidableEq, Repr

namespace Store

def opened (initial : Snapshot) : Store :=
  ⟨⟨0, initial⟩, []⟩

-- How many announcements wait for a subscriber who is slow to receive them.
def capacity : Nat := 16

def swap (store : Store) (snapshot : Snapshot) : Store :=
  { store with current := ⟨store.current.number + 1, snapshot⟩ }

def announce (store : Store) : Store :=
  { store with announced := store.announced ++ [store.current] }

def publish (store : Store) (snapshot : Snapshot) : Store :=
  (store.swap snapshot).announce

def oldest (store : Store) : Nat :=
  store.announced.length - capacity

theorem publish_current (store : Store) (snapshot : Snapshot) :
    (store.publish snapshot).current = ⟨store.current.number + 1, snapshot⟩ := rfl

theorem publish_announced (store : Store) (snapshot : Snapshot) :
    (store.publish snapshot).announced = store.announced ++ [(store.publish snapshot).current] := rfl

end Store

structure Subscriber where
  passed : Nat
  deriving DecidableEq, Repr

/-- What a subscriber receives. After a lag reception goes on with the oldest announcement kept. -/
inductive Reception where
  | empty
  | lagged (count : Nat)
  | edition (edition : Edition)
  deriving DecidableEq, Repr

def Store.subscribe (store : Store) : Subscriber :=
  ⟨store.announced.length⟩

def Subscriber.receive (subscriber : Subscriber) (store : Store) : Reception × Subscriber :=
  if subscriber.passed < store.oldest then
    (.lagged (store.oldest - subscriber.passed), ⟨store.oldest⟩)
  else
    match store.announced[subscriber.passed]? with
    | none => (.empty, subscriber)
    | some edition => (.edition edition, ⟨subscriber.passed + 1⟩)

def Subscriber.next? (subscriber : Subscriber) (store : Store) : Option Edition × Subscriber :=
  match store.announced[max subscriber.passed store.oldest]? with
  | none => (none, subscriber)
  | some edition => (some edition, ⟨max subscriber.passed store.oldest + 1⟩)

end BslLint
