import BslLint.Toml.Basic

/-! Tables while a document is read. How a table came into being decides what may still be added to it: a
header opens a table once, a table implied by a longer header can be opened later, and dotted keys reach
only into tables that were not opened by a header. -/

set_option autoImplicit false

namespace BslLint.Toml

inductive Origin where
  | header
  | implied
  | dotted
  deriving DecidableEq, Repr

inductive Draft where
  | value (value : Toml)
  | table (origin : Origin) (entries : List (String × Draft))
  | tables (elements : List (List (String × Draft)))

namespace Draft

abbrev Entries := List (String × Draft)

def find? (entries : Entries) (key : String) : Option Draft :=
  match entries with
  | [] => none
  | (found, draft) :: rest => if found = key then some draft else find? rest key

def set (entries : Entries) (key : String) (draft : Draft) : Entries :=
  match entries with
  | [] => [(key, draft)]
  | (found, old) :: rest => if found = key then (key, draft) :: rest else (found, old) :: set rest key draft

def erase (entries : Entries) (key : String) : Entries :=
  entries.filter fun entry => entry.1 != key

/-- Changes the table at the end of a path and answers what the change answers. Missing tables on the way
come into being; a table list stands for its last element. -/
def update {Answer : Type} (dotted : Bool) (path : List String)
    (change : Origin → Entries → Option (Entries × Answer)) (origin : Origin) (entries : Entries) :
    Option (Entries × Answer) :=
  match path with
  | [] => change origin entries
  | key :: rest =>
    match find? entries key with
    | none => do
      let made := if dotted then Origin.dotted else Origin.implied
      let (inner, answer) ← update dotted rest change made []
      return (set entries key (.table made inner), answer)
    | some (.table found inner) =>
      if dotted ∧ found = .header then none
      else do
        let (inner, answer) ← update dotted rest change found inner
        return (set entries key (.table found inner), answer)
    | some (.tables elements) => do
      let (last, answer) ← update dotted rest change .header (← elements.getLast?)
      return (set entries key (.tables (elements.dropLast ++ [last])), answer)
    | some (.value _) => none

/-- Adds a value under a dotted key, given as the tables on the way and the last key. -/
def addValue (entries : Entries) (path : List String) (key : String) (value : Toml) : Option Entries :=
  let change (origin : Origin) (inner : Entries) : Option (Entries × Unit) :=
    if (origin == .dotted) == path.isEmpty then none
    else match find? inner key with
      | some _ => none
      | none => some (set inner key (.value value), ())
  (update true path change .header entries).map Prod.fst

/-- Opens a table by its header. Returns the entries without that table, and what it already holds. -/
def openTable (entries : Entries) (path : List String) (key : String) : Option (Entries × Entries) :=
  let change (_ : Origin) (inner : Entries) : Option (Entries × Entries) :=
    match find? inner key with
    | none => some (inner, [])
    | some (.table .implied old) => some (erase inner key, old)
    | some _ => none
  update false path change .header entries

def openTables (entries : Entries) (path : List String) (key : String) : Option Entries :=
  let change (_ : Origin) (inner : Entries) : Option (Entries × Unit) :=
    match find? inner key with
    | none => some (set inner key (.tables []), ())
    | some (.tables _) => some (inner, ())
    | some _ => none
  (update false path change .header entries).map Prod.fst

def closeTable (entries : Entries) (path : List String) (key : String) (table : Entries) : Option Entries :=
  let change (_ : Origin) (inner : Entries) : Option (Entries × Unit) :=
    match find? inner key with
    | none => some (set inner key (.table .header table), ())
    | some (.tables elements) => some (set inner key (.tables (elements ++ [table])), ())
    | some _ => none
  (update false path change .header entries).map Prod.fst

mutual

def toToml : Draft → Toml
  | .value held => held
  | .table _ entries => .table (entriesToToml entries)
  | .tables elements => .array (elementsToToml elements)

def entriesToToml : List (String × Draft) → List (String × Toml)
  | [] => []
  | (key, draft) :: rest => (key, toToml draft) :: entriesToToml rest

def elementsToToml : List (List (String × Draft)) → List Toml
  | [] => []
  | element :: rest => .table (entriesToToml element) :: elementsToToml rest

end

end Draft

end BslLint.Toml
