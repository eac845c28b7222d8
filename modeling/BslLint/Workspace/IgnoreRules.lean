import BslLint.Text.Space
import BslLint.Text.Split
import BslLint.Workspace.FileTree
import BslLint.Workspace.IgnorePattern

/-! Ignore files. Each line of an ignore file is a rule, and the last rule that fits a path decides. Rules
of files nearer to the path come before those farther away, and `.ignore` before `.gitignore` before the
exclude file of a repository; the latter two count only within a repository. -/

set_option autoImplicit false

namespace BslLint

structure IgnoreRule where
  keeps : Bool
  onlyDirectories : Bool
  pattern : IgnorePattern
  deriving Repr

namespace IgnoreRule

/-- A line without the white space at its end, unless that is an escaped space. -/
def trimLine (line : List Char) : List Char :=
  if line.reverse.take 2 = [' ', '\\'] then line else Text.trimEnd line

/-- Whether a line keeps instead of ignores, whether it is bound to the directory of its file, and the rest. -/
def readMarks (line : List Char) : Bool × Bool × List Char :=
  match line with
  | '\\' :: '!' :: rest => (false, false, '!' :: rest)
  | '\\' :: '#' :: rest => (false, false, '#' :: rest)
  | '!' :: '/' :: rest => (true, true, rest)
  | '!' :: rest => (true, false, rest)
  | '/' :: rest => (false, true, rest)
  | line => (false, false, line)

def readDirectoryMark (line : List Char) : Bool × List Char :=
  match line.reverse with
  | '/' :: '\\' :: before => (true, before.reverse)
  | '/' :: before => (true, before.reverse)
  | _ => (false, line)

/-- The whole pattern: without a slash it fits in any directory, and after a last slash two asterisks fit only
what is below. -/
def wholePattern (bound : Bool) (text : List Char) : List Char :=
  let anywhere := ['*', '*', '/']
  let whole :=
    if bound ∨ text.contains '/' ∨ text = ['*', '*'] then text else anywhere ++ text
  if whole.reverse.take 3 = ['*', '*', '/'] then whole ++ ['/', '*'] else whole

/-- The rule of a line; comments, blank lines and invalid patterns are none. -/
def ofLine? (line : List Char) : Option IgnoreRule :=
  if line.head? = some '#' then none
  else
    let line := trimLine line
    if line = [] then none
    else
      let (keeps, bound, line) := readMarks line
      let (onlyDirectories, text) := readDirectoryMark line
      (IgnorePattern.ofText? (wholePattern bound text)).map fun pattern => ⟨keeps, onlyDirectories, pattern⟩

def fits (rule : IgnoreRule) (path : List UInt8) (isDirectory : Bool) : Bool :=
  (!rule.onlyDirectories || isDirectory) && rule.pattern.fits path

def byteLines : List UInt8 → List (List UInt8 × Bool)
  | [] => []
  | byte :: rest =>
    if byte = 10 then ([], true) :: byteLines rest
    else match byteLines rest with
      | (line, ended) :: lines => (byte :: line, ended) :: lines
      | [] => [([byte], false)]

def decodeLine? (line : List UInt8 × Bool) : Option (List Char) := do
  let text := (← String.fromUTF8? ⟨line.1.toArray⟩).toList
  return if line.2 ∧ text.getLast? = some '\r' then text.dropLast else text

/-- The lines before the first that is not UTF-8, without byte order marks at the start. -/
def textLines (content : ByteArray) : List (List Char) :=
  let lines := ((byteLines content.toList).map decodeLine?).takeWhile Option.isSome
  match lines.filterMap id with
  | [] => []
  | first :: others => first.dropWhile (· == '\uFEFF') :: others

def ofContent (content : ByteArray) : List IgnoreRule :=
  (textLines content).filterMap ofLine?

/-- What the rules of a file say about a path: whether it is kept, or nothing. -/
def verdict? (rules : List IgnoreRule) (path : List UInt8) (isDirectory : Bool) : Option Bool :=
  (rules.reverse.find? fun rule => rule.fits path isDirectory).map IgnoreRule.keeps

end IgnoreRule

structure IgnoreLayer where
  directory : Place
  rules : List IgnoreRule
  repositoryRules : List IgnoreRule
  excludeRules : List IgnoreRule
  isRepository : Bool

namespace IgnoreLayer

def ignoreName : String := ".ignore"

def repositoryIgnoreName : String := ".gitignore"

def repositoryName : String := ".git"

def rulesAt (tree : FileTree) (place : Place) : List IgnoreRule :=
  match tree.node? place with
  | some (.file content) => IgnoreRule.ofContent content
  | _ => []

def ofDirectory (tree : FileTree) (directory : Place) : IgnoreLayer where
  directory
  rules := rulesAt tree (directory ++ [ignoreName])
  repositoryRules := rulesAt tree (directory ++ [repositoryIgnoreName])
  excludeRules := rulesAt tree (directory ++ [repositoryName, "info", "exclude"])
  isRepository := (tree.node? (directory ++ [repositoryName])).isSome

def directories (tree : FileTree) : List Place :=
  let names := [ignoreName, repositoryIgnoreName, repositoryName]
  (tree.nodes.filterMap fun (place, _) =>
    if place.getLast?.any names.contains then some place.dropLast else none).eraseDups

def ofTree (tree : FileTree) : List IgnoreLayer :=
  (directories tree).map (ofDirectory tree)

def above (layers : List IgnoreLayer) (place : Place) : List IgnoreLayer :=
  (layers.filter fun layer => layer.directory.isPrefixOf place.dropLast).mergeSort
    fun left right => decide (right.directory.length ≤ left.directory.length)

/-- The layers up to the nearest repository; none outside of a repository. -/
def withinRepository (layers : List IgnoreLayer) : List IgnoreLayer :=
  match layers.findIdx? IgnoreLayer.isRepository with
  | some index => layers.take (index + 1)
  | none => []

/-- A path as the bytes that rules are matched against, relative to a directory above it. -/
def relativePath (directory place : Place) : List UInt8 :=
  ("/".intercalate (place.drop directory.length)).toUTF8.toList

def verdict? (layers : List IgnoreLayer) (rules : IgnoreLayer → List IgnoreRule) (place : Place)
    (isDirectory : Bool) : Option Bool :=
  layers.findSome? fun layer =>
    IgnoreRule.verdict? (rules layer) (relativePath layer.directory place) isDirectory

def keeps (layers : List IgnoreLayer) (place : Place) (isDirectory : Bool) : Bool :=
  let layers := above layers place
  let repository := withinRepository layers
  ((verdict? layers rules place isDirectory).or
    ((verdict? repository repositoryRules place isDirectory).or
      (verdict? repository excludeRules place isDirectory))).getD true

end IgnoreLayer

end BslLint
