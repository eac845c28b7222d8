import BslLint.Configuration.Reader

/-! Which configuration file a run uses. The file that is asked for comes first, then the workspace, then
the global directory; in each directory JSON is preferred to TOML. Where nothing is there, the workspace's
own file is named, so that it takes effect when it appears. -/

set_option autoImplicit false

namespace BslLint.Command

structure Environment where
  /-- The configuration file to use. -/
  configuration : Option String
  /-- The global directory. -/
  directory : Option String
  home : Option String
  deriving DecidableEq, Repr

inductive Origin where
  | demand
  | workspace
  | global
  | missing
  deriving DecidableEq, Repr

structure Lookup where
  path : Path
  origin : Origin
  deriving DecidableEq, Repr

namespace Lookup

def workspaceNames : List String :=
  [Snapshot.fileName, "bsl-analyzer.toml"]

def globalNames : List String :=
  ["config.json", "config.toml"]

/-- The directory in the home directory that is the global one unless the environment names another. -/
def homeName : String := ".bsl-analyzer"

def globalDirectory (environment : Environment) : Option Path :=
  match environment.directory with
  | some directory => some ⟨directory⟩
  | none => environment.home.map fun home => Path.mk home / homeName

def currentDirectory (tree : FileTree) : Path :=
  ⟨"/" ++ "/".intercalate tree.here⟩

def absolute (tree : FileTree) (path : Path) : Path :=
  (currentDirectory tree).join path

/-- The files that may be the configuration of a workspace, the most preferred first. -/
def candidates (root : Path) (global : Option Path) : List Lookup :=
  (workspaceNames.map fun name => ⟨root / name, .workspace⟩) ++
    global.toList.flatMap fun directory => globalNames.map fun name => ⟨directory / name, .global⟩

def among (tree : FileTree) (root : Path) (demand global : Option Path) : Lookup :=
  match demand with
  | some path => ⟨path, .demand⟩
  | none =>
    ((candidates root global).find? fun candidate => tree.isFile candidate.path).getD
      ⟨root / Snapshot.fileName, .missing⟩

/-- The configuration file of a workspace. The workspace and the file asked for may start from the current
directory. -/
def find (tree : FileTree) (environment : Environment) (root : Path) (demand : Option Path) : Lookup :=
  among tree (absolute tree root) (demand.map (absolute tree)) (globalDirectory environment)

end Lookup

end BslLint.Command
