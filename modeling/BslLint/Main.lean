import BslLint.Command.Run

/-! The program. It loads the files that a command line is about, carries the command line out, prints, and
writes what is to be written. -/

set_option autoImplicit false

namespace BslLint.Program

open Command

def placeText (place : Place) : String :=
  "/" ++ "/".intercalate place

def unreadable : ByteArray := ⟨#[0xFF]⟩

def loadPlace (tree : FileTree) (place : Place) : IO FileTree := do
  let path := (← IO.currentDir) / placeText place
  if ← path.isDir then return tree.makeDirectories place
  else if ← path.pathExists then
    let content ← try IO.FS.readBinFile path catch _ => pure unreadable
    return tree.putFile place content
  else return tree

def loadPath (tree : FileTree) (path : Path) : IO FileTree := do
  let mut tree := tree
  let mut place := tree.origin path
  for segment in path.segments do
    tree ← loadPlace tree (place ++ [segment])
    match tree.enter place segment with
    | .ok next => place := next
    | .error _ => return tree
  return tree

-- Whether the content of a file is looked at wherever the file is found.
def holdsContent (name : String) : Bool :=
  (FileType.ofPath? ⟨name⟩).isSome || [IgnoreLayer.ignoreName, IgnoreLayer.repositoryIgnoreName].contains name

/-- Puts what is below a directory into a tree. Links to directories are not followed. -/
partial def loadBelow (tree : FileTree) (place : Place) : IO FileTree := do
  let mut tree := tree
  for entry in ← ((← IO.currentDir) / placeText place).readDir do
    let child := place ++ [entry.fileName]
    if (← entry.path.symlinkMetadata).type == .dir then
      tree ← loadBelow (tree.makeDirectories child) child
    else if holdsContent entry.fileName then tree ← loadPlace tree child
    else if !(← entry.path.isDir) then tree := tree.putFile child .empty
  return tree

def loadIgnoreFiles (tree : FileTree) (directory : Place) : IO FileTree := do
  let names : List Place := [[IgnoreLayer.ignoreName], [IgnoreLayer.repositoryIgnoreName],
    [IgnoreLayer.repositoryName], [IgnoreLayer.repositoryName, "info", "exclude"]]
  names.foldlM (fun tree name => loadPlace tree (directory ++ name)) tree

/-- Loads what is to be analyzed, the files that may configure it, and its metadata. -/
def loadWorkspace (tree : FileTree) (environment : Environment) (demand : Option Path) (target : Path) :
    IO FileTree := do
  let mut tree ← loadPath tree target
  if let .ok place := tree.locate target then
    if (tree.content? place).isNone then tree ← loadBelow tree place
    tree ← (FileTree.approach place).foldlM loadIgnoreFiles tree
  let root := workspaceRoot tree target
  let candidates := Lookup.candidates (Lookup.absolute tree root) (Lookup.globalDirectory environment)
  for path in demand.toList ++ candidates.map Lookup.path do
    tree ← loadPath tree path
    tree ← loadPath tree (root.join path)
  if let .ok session := openSession tree environment demand target then
    for name in Metadata.fileNames do
      tree ← loadPath tree (Metadata.base root session.snapshot.configurationRoot / name)
  return tree

def load (environment : Environment) (arguments : List String) : IO FileTree := do
  let here := (Path.segments ⟨(← IO.currentDir).toString⟩).filter (· != "")
  let tree := { FileTree.empty.makeDirectories here with here }
  match Request.ofArguments environment.configuration arguments with
  | .run invocation =>
    match invocation.task with
    | .check arguments | .watch arguments =>
      loadWorkspace tree environment invocation.configuration arguments.path
    | .runRule _ file _ => loadWorkspace tree environment invocation.configuration file
    | .init _ _ => loadPath tree ⟨Snapshot.fileName⟩
    | .listRules _ _ => return tree
  | _ => return tree

def conclude (outcome : Outcome) : IO UInt32 := do
  IO.print outcome.output
  (← IO.getStdout).flush
  for (path, content) in outcome.written do IO.FS.writeFile path.text content
  if let some complaint := outcome.complaint then IO.eprintln complaint
  return outcome.exitCode.toUInt32

partial def watch (environment : Environment) (arguments : List String) (tree : FileTree) :
    Progress → IO UInt32
  | .ended outcome => conclude outcome
  | .goesOn output watching => do
    IO.print output
    (← IO.getStdout).flush
    IO.sleep 500
    let after ← load environment arguments
    watch environment arguments after (watching.next tree after)

end BslLint.Program

def main (arguments : List String) : IO UInt32 := do
  let environment : BslLint.Command.Environment := {
    configuration := ← IO.getEnv "BSL_ANALYZER_CONFIG"
    directory := ← IO.getEnv "BSL_ANALYZER_CONFIG_DIR"
    home := ← IO.getEnv "HOME" }
  let tree ← BslLint.Program.load environment arguments
  BslLint.Program.watch environment arguments tree (BslLint.Command.run tree environment arguments)
