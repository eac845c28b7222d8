import BslLint.Configuration.Watcher
import Mathlib.Data.List.Chain

/-! What becomes of a store that takes over the results of reloads, one after another. -/

set_option autoImplicit false

namespace BslLint

-- The snapshot of the last result that is one.
def Snapshot.latest (initial : Snapshot) (results : List (Except ConfigurationError Snapshot)) : Snapshot :=
  (results.filterMap Except.toOption).getLastD initial

theorem filterMap_ok (snapshot : Snapshot) (results : List (Except ConfigurationError Snapshot)) :
    (.ok snapshot :: results).filterMap Except.toOption = snapshot :: results.filterMap Except.toOption := rfl

theorem Snapshot.latest_of_getLast? {initial snapshot : Snapshot}
    {results : List (Except ConfigurationError Snapshot)} (last : results.getLast? = some (.ok snapshot)) :
    latest initial results = snapshot := by
  obtain ⟨earlier, rfl⟩ := List.getLast?_eq_some_iff.mp last
  unfold latest
  rw [List.filterMap_append, filterMap_ok]
  exact List.getLastD_concat

namespace Store

theorem accept_ok_sense (store : Store) (snapshot : Snapshot) :
    (store.accept (.ok snapshot)).current.snapshot.sense = snapshot.sense := by
  simp only [accept]
  split
  · exact (Snapshot.agrees_iff _ _).mp ‹_›
  · rfl

/-- The snapshot in force is the one that was read last without an error. -/
theorem foldl_accept_agrees (store : Store) (results : List (Except ConfigurationError Snapshot)) :
    (results.foldl accept store).current.snapshot.agrees
      (Snapshot.latest store.current.snapshot results) = true := by
  rw [Snapshot.agrees_iff, Snapshot.latest, ← List.getLastD_map (f := Snapshot.sense)]
  induction results generalizing store with
  | nil => rfl
  | cons result rest ih =>
    rw [List.foldl_cons, ih]
    cases result with
    | error error => rfl
    | ok snapshot =>
      rw [accept_ok_sense, filterMap_ok, List.map_cons, List.getLastD_cons]

/-- A store after it has published snapshots, each of which said something new. -/
structure Extends (earlier : Store) (published : List Snapshot) (later : Store) : Prop where
  announced : later.announced.map Edition.snapshot = earlier.announced.map Edition.snapshot ++ published
  changing : (earlier.current.snapshot :: published).IsChain fun before after => before.agrees after = false
  current : later.current.snapshot = published.getLastD earlier.current.snapshot

theorem extends_self (store : Store) : store.Extends [] store where
  announced := (List.append_nil _).symm
  changing := .singleton _
  current := rfl

theorem Extends.publish {store later : Store} {snapshot : Snapshot} {published : List Snapshot}
    (differs : store.current.snapshot.agrees snapshot = false)
    (extended : (store.publish snapshot).Extends published later) :
    store.Extends (snapshot :: published) later where
  announced := by
    rw [extended.announced, publish_announced, List.map_append, List.append_assoc]
    rfl
  changing := List.isChain_cons_cons.mpr ⟨differs, extended.changing⟩
  current := by
    rw [extended.current, List.getLastD_cons]
    rfl

/-- What is published is some of what was read, in the order of reading. -/
theorem foldl_accept_extends (store : Store) (results : List (Except ConfigurationError Snapshot)) :
    ∃ published, published.Sublist (results.filterMap Except.toOption) ∧
      store.Extends published (results.foldl accept store) := by
  induction results generalizing store with
  | nil => exact ⟨[], .slnil, store.extends_self⟩
  | cons result rest ih =>
    cases result with
    | error error => exact ih store
    | ok snapshot =>
      rw [List.foldl_cons, filterMap_ok]
      cases same : store.current.snapshot.agrees snapshot with
      | true =>
        -- What is in force already is not published again.
        obtain ⟨published, among, extended⟩ := ih store
        rw [accept, same, if_pos rfl]
        exact ⟨published, among.cons snapshot, extended⟩
      | false =>
        obtain ⟨published, among, extended⟩ := ih (store.publish snapshot)
        rw [accept, same, if_neg Bool.false_ne_true]
        exact ⟨snapshot :: published, among.cons_cons snapshot, extended.publish same⟩

end Store

end BslLint
