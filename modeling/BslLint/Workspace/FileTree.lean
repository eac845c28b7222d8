import BslLint.Path

/-! Files and directories. A place is the list of names that lead to it from the root directory. Paths are
followed name by name, so each step but the last has to be an existing directory. -/

set_option autoImplicit false

namespace BslLint

abbrev Place := List String

inductive FileNode where
  | directory
  | file (content : ByteArray)

inductive FileError where
  | notFound
  | notDirectory
  | isDirectory
  | invalidName
  | notText
  deriving DecidableEq, Repr

/-- The nodes by their places, and the directory that relative paths start from. -/
structure FileTree where
  here : Place
  nodes : List (Place × FileNode)
  distinct : (nodes.map Prod.fst).Nodup

namespace FileTree

def empty : FileTree :=
  ⟨[], [], List.nodup_nil⟩

instance : Inhabited FileTree := ⟨empty⟩

def node? (tree : FileTree) (place : Place) : Option FileNode :=
  if place = [] then some .directory else tree.nodes.lookup place

theorem nodup_filter {entries : List (Place × FileNode)} (keep : Place × FileNode → Bool)
    (distinct : (entries.map Prod.fst).Nodup) : ((entries.filter keep).map Prod.fst).Nodup :=
  List.Nodup.sublist (List.Sublist.map _ List.filter_sublist) distinct

def put (tree : FileTree) (place : Place) (node : FileNode) : FileTree where
  here := tree.here
  nodes := (place, node) :: tree.nodes.filter fun entry => entry.1 != place
  distinct := by
    rw [List.map_cons, List.nodup_cons]
    refine ⟨?_, nodup_filter _ tree.distinct⟩
    simp [List.mem_map, List.mem_filter]

def remove (tree : FileTree) (place : Place) : FileTree where
  here := tree.here
  nodes := tree.nodes.filter fun entry => !place.isPrefixOf entry.1
  distinct := nodup_filter _ tree.distinct

def approach (place : Place) : List Place :=
  (List.range (place.length + 1)).map fun length => place.take length

/-- Makes a directory and the directories above it, where nothing is there yet. -/
def makeDirectories (tree : FileTree) (place : Place) : FileTree :=
  (approach place).foldl
    (fun tree above => if (tree.node? above).isNone then tree.put above .directory else tree) tree

def putFile (tree : FileTree) (place : Place) (content : ByteArray) : FileTree :=
  (tree.makeDirectories place.dropLast).put place (.file content)

def nameLimit : Nat := 255

def content? (tree : FileTree) (place : Place) : Option ByteArray :=
  match tree.node? place with
  | some (.file content) => some content
  | _ => none

def hasSameContent (left right : FileTree) (place : Place) : Bool :=
  match left.content? place, right.content? place with
  | some left, some right => left.data == right.data
  | none, none => true
  | _, _ => false

def enter (tree : FileTree) (place : Place) (segment : String) : Except FileError Place :=
  match tree.node? place with
  | none => .error .notFound
  | some (.file _) => .error .notDirectory
  | some .directory =>
    if segment = "" ∨ segment = "." then .ok place
    else if segment = ".." then .ok place.dropLast
    else if nameLimit < segment.utf8ByteSize then .error .invalidName
    else if (tree.node? (place ++ [segment])).isSome then .ok (place ++ [segment])
    else .error .notFound

def follow (tree : FileTree) (place : Place) (segments : List String) : Except FileError Place :=
  segments.foldlM tree.enter place

def origin (tree : FileTree) (path : Path) : Place :=
  if path.isAbsolute then [] else tree.here

def locate (tree : FileTree) (path : Path) : Except FileError Place :=
  if path.text.toList.contains '\x00' then .error .invalidName
  else if path.text = "" then .error .notFound
  else tree.follow (tree.origin path) path.segments

def find (tree : FileTree) (path : Path) : Except FileError FileNode := do
  match tree.node? (← tree.locate path) with
  | some node => return node
  | none => throw .notFound

def isFile (tree : FileTree) (path : Path) : Bool :=
  match tree.find path with
  | .ok (.file _) => true
  | _ => false

def pathExists (tree : FileTree) (path : Path) : Bool :=
  match tree.find path with
  | .ok _ => true
  | .error _ => false

def read (tree : FileTree) (path : Path) : Except FileError ByteArray := do
  match ← tree.find path with
  | .file content => return content
  | .directory => throw .isDirectory

def readText (tree : FileTree) (path : Path) : Except FileError String := do
  match String.fromUTF8? (← tree.read path) with
  | some text => return text
  | none => throw .notText

def write (tree : FileTree) (path : Path) (content : String) : Except FileError FileTree :=
  match path.fileName?, path.parent? with
  | some name, some parent => do
    let directory ← tree.locate (if parent.text = "" then ⟨"."⟩ else parent)
    match tree.node? directory, tree.node? (directory ++ [name]) with
    | some .directory, some .directory => throw .isDirectory
    | some .directory, _ => return tree.put (directory ++ [name]) (.file content.toUTF8)
    | _, _ => throw .notDirectory
  | _, _ => .error .invalidName

def below (tree : FileTree) (place : Place) : List (Place × FileNode) :=
  tree.nodes.filterMap fun (entry, node) =>
    if place.isPrefixOf entry && decide (place.length < entry.length) then
      some (entry.drop place.length, node)
    else none

end FileTree

end BslLint
