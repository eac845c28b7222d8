/-! Finite maps from texts, as entries in ascending order of their keys. -/

set_option autoImplicit false

namespace BslLint

abbrev Dictionary (Value : Type) := List (String × Value)

namespace Dictionary

variable {Value : Type}

def get? (entries : Dictionary Value) (key : String) : Option Value :=
  match entries with
  | [] => none
  | (found, value) :: rest => if found = key then some value else get? rest key

/-- Sets the value of a key; an earlier value is forgotten. -/
def insert (entries : Dictionary Value) (key : String) (value : Value) : Dictionary Value :=
  match entries with
  | [] => [(key, value)]
  | (found, old) :: rest =>
    if key < found then (key, value) :: (found, old) :: rest
    else if found = key then (key, value) :: rest
    else (found, old) :: insert rest key value

def ofList (pairs : List (String × Value)) : Dictionary Value :=
  pairs.foldl (fun entries pair => insert entries pair.1 pair.2) []

def extend (entries added : Dictionary Value) : Dictionary Value :=
  added.foldl (fun entries pair => insert entries pair.1 pair.2) entries

def keys (entries : Dictionary Value) : List String :=
  entries.map Prod.fst

theorem get?_insert_self (entries : Dictionary Value) (key : String) (value : Value) :
    get? (insert entries key value) key = some value := by
  induction entries with
  | nil => simp [insert, get?]
  | cons entry rest ih =>
    obtain ⟨found, old⟩ := entry
    unfold insert
    split
    · simp [get?]
    · split
      · simp [get?]
      · rename_i differs
        simp [get?, differs, ih]

theorem get?_insert_of_ne (entries : Dictionary Value) {key other : String} (value : Value)
    (distinct : key ≠ other) : get? (insert entries key value) other = get? entries other := by
  induction entries with
  | nil => simp [insert, get?, distinct]
  | cons entry rest ih =>
    obtain ⟨found, old⟩ := entry
    unfold insert
    split
    · simp [get?, distinct]
    · split
      · rename_i same
        subst same
        simp [get?, distinct]
      · simp [get?, ih]

theorem get?_insert (entries : Dictionary Value) (key other : String) (value : Value) :
    get? (insert entries key value) other = if key = other then some value else get? entries other := by
  split
  · rename_i same
    subst same
    exact get?_insert_self entries key value
  · rename_i distinct
    exact get?_insert_of_ne entries value distinct

end Dictionary

end BslLint
