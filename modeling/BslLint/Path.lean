import BslLint.Text.Split

/-! Paths as they are written, and the components they name. -/

set_option autoImplicit false

namespace BslLint

structure Path where
  text : String
  deriving DecidableEq, Repr

namespace Path

inductive Component where
  | root
  | here
  | parent
  | name (text : String)
  deriving DecidableEq, Repr

def segments (path : Path) : List String :=
  (Text.splitOn '/' path.text.toList).map String.ofList

def isAbsolute (path : Path) : Bool :=
  path.text.toList.head? == some '/'

/-- The component of a segment; empty segments and single dots name nothing. -/
def component? (segment : String) : Option Component :=
  if segment = "" ∨ segment = "." then none
  else if segment = ".." then some .parent
  else some (.name segment)

/-- What a path names step by step. A dot counts only at the start of a relative path. -/
def components (path : Path) : List Component :=
  let steps := path.segments.filterMap component?
  if path.isAbsolute then .root :: steps
  else if path.segments.head? = some "." then .here :: steps
  else steps

def fileName? (path : Path) : Option String :=
  match path.components.getLast? with
  | some (.name text) => some text
  | _ => none

/-- What follows the last dot of a name; a dot at the start does not count. -/
def extensionOf (name : List Char) : Option (List Char) :=
  let reversed := name.reverse
  match reversed.dropWhile (· != '.') with
  | [] => none
  | [_] => none
  | _ :: _ :: _ => some (reversed.takeWhile (· != '.')).reverse

def extension? (path : Path) : Option (List Char) :=
  path.fileName?.bind fun name => extensionOf name.toList

def hasExtension (path : Path) (expected : String) : Bool :=
  match path.extension? with
  | some found => Text.eqIgnoringAsciiCase found expected.toList
  | none => false

/-- A path below a directory; an absolute path stands for itself. -/
def join (directory : Path) (path : Path) : Path :=
  if path.isAbsolute then path
  else if directory.text = "" ∨ directory.text.toList.getLast? = some '/' then ⟨directory.text ++ path.text⟩
  else ⟨directory.text ++ "/" ++ path.text⟩

instance : HDiv Path String Path where
  hDiv directory name := join directory ⟨name⟩

def ofComponents (components : List Component) : Path :=
  let piece : Component → String
    | .root => ""
    | .here => "."
    | .parent => ".."
    | .name text => text
  match components with
  | [.root] => ⟨"/"⟩
  | _ => ⟨"/".intercalate (components.map piece)⟩

/-- The path without its last component; the root and the empty path have none. -/
def parent? (path : Path) : Option Path :=
  match path.components with
  | [] => none
  | [.root] => none
  | components => some (ofComponents components.dropLast)

-- Components are ordered by kind, names among themselves by their characters.
def Component.rank : Component → Nat
  | .root => 0
  | .here => 1
  | .parent => 2
  | .name _ => 3

def Component.le (left right : Component) : Bool :=
  match left, right with
  | .name left, .name right => left ≤ right
  | left, right => left.rank ≤ right.rank

def componentsLe : List Component → List Component → Bool
  | [], _ => true
  | _ :: _, [] => false
  | left :: lefts, right :: rights =>
    if left = right then componentsLe lefts rights else left.le right

def le (left right : Path) : Bool :=
  componentsLe left.components right.components

end Path

end BslLint
