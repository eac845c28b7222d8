import BslLint.Source.Document
import BslLint.Workspace.ExcludePattern
import BslLint.Workspace.IgnoreRules

/-! Which files of a directory are analyzed: the modules and scripts that are neither ignored nor excluded,
in the order of their paths. -/

set_option autoImplicit false

namespace BslLint

inductive DiscoveryError where
  | walk
  | pattern (error : InvalidExclude)
  deriving DecidableEq, Repr

namespace Discovery

/-- The path that stands for the standard input, in which there are no files. -/
def standardInput : Path := ⟨"-"⟩

def entryPath (root : Path) (names : Place) : Path :=
  names.foldl (· / ·) root

def relativeText (names : Place) : List Char :=
  ("/".intercalate names).toList

/-- Whether a walk from `root` reaches an entry, which the ignore files decide directory by directory. -/
def reaches (layers : List IgnoreLayer) (root names : Place) (isDirectory : Bool) : Bool :=
  (FileTree.approach names.dropLast).tail.all (fun above => IgnoreLayer.keeps layers (root ++ above) true) &&
    IgnoreLayer.keeps layers (root ++ names) isDirectory

def walk (tree : FileTree) (root : Place) : List Place :=
  let layers := IgnoreLayer.ofTree tree
  (tree.below root).filterMap fun (names, node) =>
    match node with
    | .directory => none
    | .file _ => if reaches layers root names false then some names else none

def isSource (root : Path) (names : Place) : Bool :=
  (FileType.ofPath? (entryPath root names)).isSome

def select (root : Path) (patterns : List ExcludePattern) (found : List Place) : List Place :=
  found.filter fun names =>
    isSource root names && !patterns.any fun pattern => pattern.excludes (relativeText names)

/-- The files to analyze. A file stands for itself, and its patterns are not looked at. -/
def files (tree : FileTree) (root : Path) (exclude : List String) : Except DiscoveryError (List Path) :=
  if tree.isFile root then .ok [root]
  else
    match exclude.mapM ExcludePattern.parse with
    | .error error => .error (.pattern error)
    | .ok patterns =>
      if root.components = standardInput.components then .ok []
      else
        match tree.locate root with
        | .error _ => .error .walk
        | .ok place =>
          .ok (((select root patterns (walk tree place)).map (entryPath root)).mergeSort Path.le)

end Discovery

end BslLint
