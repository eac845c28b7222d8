import BslLint.Toml.Reader
import Mathlib.Data.List.Nodup

/-! Keys of a document. However its tables are opened, closed and added to, no key stands in a document twice. -/

set_option autoImplicit false

namespace BslLint.Toml

def Distinct {Value : Type} (entries : List (String × Value)) : Prop :=
  (entries.map Prod.fst).Nodup

namespace Draft

variable {entries after : Entries} {path : List String} {key : String}

theorem mem_keys_set {draft : Draft} {other : String} (mem : other ∈ (set entries key draft).map Prod.fst) :
    other = key ∨ other ∈ entries.map Prod.fst := by
  induction entries with
  | nil => exact .inl (List.mem_singleton.mp mem)
  | cons entry rest ih =>
    obtain ⟨found, old⟩ := entry
    rw [set] at mem
    rw [List.map_cons, List.mem_cons]
    split at mem
    · exact (List.mem_cons.mp mem).imp_right .inr
    · rcases List.mem_cons.mp mem with same | later
      · exact .inr (.inl same)
      · exact (ih later).imp_right .inr

theorem distinct_set (distinct : Distinct entries) (key : String) (draft : Draft) :
    Distinct (set entries key draft) := by
  induction entries with
  | nil => exact List.nodup_singleton key
  | cons entry rest ih =>
    obtain ⟨found, old⟩ := entry
    obtain ⟨fresh, distinct⟩ := List.nodup_cons.mp distinct
    rw [Draft.set]
    split
    · rename_i same
      subst same
      exact List.nodup_cons.mpr ⟨fresh, distinct⟩
    · rename_i differs
      refine List.nodup_cons.mpr ⟨fun mem => ?_, ih distinct⟩
      exact (mem_keys_set mem).elim differs fresh

theorem distinct_erase (distinct : Distinct entries) (key : String) : Distinct (erase entries key) :=
  List.Nodup.sublist (List.Sublist.map _ List.filter_sublist) distinct

/-- A change of a table that is found by a path. It keeps the keys of the table distinct. -/
def Keeps {Answer : Type} (change : Origin → Entries → Option (Entries × Answer)) : Prop :=
  ∀ {origin entries after answer}, change origin entries = some (after, answer) → Distinct entries → Distinct after

/-- Wherever a path leads, the table that it starts from only has an entry replaced or added. -/
theorem Keeps.update {Answer : Type} {change : Origin → Entries → Option (Entries × Answer)} (keeps : Keeps change)
    {dotted : Bool} {origin : Origin} {answer : Answer}
    (updated : update dotted path change origin entries = some (after, answer)) (distinct : Distinct entries) :
    Distinct after := by
  unfold Draft.update at updated
  split at updated
  · exact keeps updated distinct
  · split at updated
    · obtain ⟨_, _, same⟩ := Option.bind_eq_some_iff.mp updated
      cases same
      exact distinct_set distinct _ _
    · split at updated
      · cases updated
      · obtain ⟨_, _, same⟩ := Option.bind_eq_some_iff.mp updated
        cases same
        exact distinct_set distinct _ _
    · obtain ⟨_, _, updated⟩ := Option.bind_eq_some_iff.mp updated
      obtain ⟨_, _, same⟩ := Option.bind_eq_some_iff.mp updated
      cases same
      exact distinct_set distinct _ _
    · cases updated

theorem distinct_addValue {value : Toml} (distinct : Distinct entries)
    (added : addValue entries path key value = some after) : Distinct after := by
  obtain ⟨⟨_, _⟩, updated, rfl⟩ := Option.map_eq_some_iff.mp added
  refine Keeps.update ?_ updated distinct
  intro origin inner changed _ change distinct
  dsimp only at change
  split at change
  · cases change
  · split at change
    · cases change
    · cases change
      exact distinct_set distinct _ _

theorem distinct_openTable {held : Entries} (distinct : Distinct entries)
    (opened : openTable entries path key = some (after, held)) : Distinct after := by
  refine Keeps.update ?_ opened distinct
  intro origin inner changed _ change distinct
  dsimp only at change
  split at change
  · cases change
    exact distinct
  · cases change
    exact distinct_erase distinct _
  · cases change

theorem distinct_openTables (distinct : Distinct entries) (opened : openTables entries path key = some after) :
    Distinct after := by
  obtain ⟨⟨_, _⟩, updated, rfl⟩ := Option.map_eq_some_iff.mp opened
  refine Keeps.update ?_ updated distinct
  intro origin inner changed _ change distinct
  dsimp only at change
  split at change
  · cases change
    exact distinct_set distinct _ _
  · cases change
    exact distinct
  · cases change

theorem distinct_closeTable {table : Entries} (distinct : Distinct entries)
    (closed : closeTable entries path key table = some after) : Distinct after := by
  obtain ⟨⟨_, _⟩, updated, rfl⟩ := Option.map_eq_some_iff.mp closed
  refine Keeps.update ?_ updated distinct
  intro origin inner changed _ change distinct
  dsimp only at change
  split at change
  · cases change
    exact distinct_set distinct _ _
  · cases change
    exact distinct_set distinct _ _
  · cases change

theorem keys_entriesToToml (entries : Entries) : (entriesToToml entries).map Prod.fst = entries.map Prod.fst := by
  induction entries with
  | nil => rfl
  | cons entry rest ih =>
    obtain ⟨key, draft⟩ := entry
    rw [entriesToToml, List.map_cons, List.map_cons, ih]

end Draft

namespace Reading

/-- The outermost table has distinct keys. It is the open one as long as no header stands above. -/
structure Orderly (reading : Reading) : Prop where
  finished : Distinct reading.finished
  current : reading.header = none → Distinct reading.current

variable {reading after : Reading} {path : List String} {key : String}

theorem start_orderly : start.Orderly where
  finished := List.nodup_nil
  current _ := List.nodup_nil

theorem Orderly.close (orderly : reading.Orderly) {entries : Draft.Entries} (closed : reading.close = some entries) :
    Distinct entries := by
  unfold Reading.close at closed
  split at closed
  · rename_i none
    cases closed
    exact orderly.current none
  · exact Draft.distinct_closeTable orderly.finished closed

theorem Orderly.openTable (orderly : reading.Orderly) (opened : reading.openTable path key = some after) :
    after.Orderly := by
  obtain ⟨entries, closed, opened⟩ := Option.bind_eq_some_iff.mp opened
  obtain ⟨⟨finished, current⟩, found, same⟩ := Option.bind_eq_some_iff.mp opened
  cases same
  exact ⟨Draft.distinct_openTable (orderly.close closed) found, nofun⟩

theorem Orderly.openElement (orderly : reading.Orderly) (opened : reading.openElement path key = some after) :
    after.Orderly := by
  obtain ⟨entries, closed, opened⟩ := Option.bind_eq_some_iff.mp opened
  obtain ⟨finished, found, same⟩ := Option.bind_eq_some_iff.mp opened
  cases same
  exact ⟨Draft.distinct_openTables (orderly.close closed) found, nofun⟩

theorem Orderly.addValue (orderly : reading.Orderly) {value : Toml}
    (added : reading.addValue path key value = some after) : after.Orderly := by
  obtain ⟨current, found, same⟩ := Option.bind_eq_some_iff.mp added
  cases same
  exact ⟨orderly.finished, fun none => Draft.distinct_addValue (orderly.current none) found⟩

end Reading

variable {reading after : Reading}

theorem orderly_of_readLine (orderly : reading.Orderly) {text rest : List Char}
    (read : readLine reading text = some (after, rest)) : after.Orderly := by
  unfold readLine at read
  split at read
  · obtain ⟨⟨⟨path, key⟩, behind⟩, _, read⟩ := Option.bind_eq_some_iff.mp read
    dsimp only at read
    split at read
    · obtain ⟨opened, added, read⟩ := Option.bind_eq_some_iff.mp read
      obtain ⟨_, _, same⟩ := Option.bind_eq_some_iff.mp read
      cases same
      exact orderly.openElement added
    · cases read
  · obtain ⟨⟨⟨path, key⟩, behind⟩, _, read⟩ := Option.bind_eq_some_iff.mp read
    dsimp only at read
    split at read
    · obtain ⟨opened, added, read⟩ := Option.bind_eq_some_iff.mp read
      obtain ⟨_, _, same⟩ := Option.bind_eq_some_iff.mp read
      cases same
      exact orderly.openTable added
    · cases read
  · obtain ⟨⟨⟨path, key⟩, behind⟩, _, read⟩ := Option.bind_eq_some_iff.mp read
    dsimp only at read
    split at read
    · obtain ⟨⟨value, behind⟩, _, read⟩ := Option.bind_eq_some_iff.mp read
      obtain ⟨added, adds, read⟩ := Option.bind_eq_some_iff.mp read
      obtain ⟨_, _, same⟩ := Option.bind_eq_some_iff.mp read
      cases same
      exact orderly.addValue adds
    · cases read

theorem orderly_of_readLines (orderly : reading.Orderly) {fuel : Nat} {text : List Char}
    (read : readLines fuel reading text = some after) : after.Orderly := by
  induction fuel generalizing reading text with
  | zero => cases read
  | succ fuel ih =>
    rw [readLines] at read
    split at read
    · cases read
      exact orderly
    · obtain ⟨⟨next, rest⟩, line, read⟩ := Option.bind_eq_some_iff.mp read
      exact ih (orderly_of_readLine orderly line) read

-- A document is a table, and no key stands in it twice.
theorem table_of_ofText? {text : List Char} {document : Toml} (read : ofText? text = some document) :
    ∃ entries, document = .table entries ∧ Distinct entries := by
  unfold ofText? at read
  obtain ⟨reading, lines, read⟩ := Option.bind_eq_some_iff.mp read
  obtain ⟨entries, closed, same⟩ := Option.bind_eq_some_iff.mp read
  cases same
  refine ⟨_, rfl, ?_⟩
  rw [Distinct, Draft.keys_entriesToToml]
  exact (orderly_of_readLines Reading.start_orderly lines).close closed

end BslLint.Toml
