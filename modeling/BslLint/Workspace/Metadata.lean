import BslLint.Compatibility
import BslLint.Workspace.FileTree
import BslLint.Xml.Namespace

/-! The compatibility mode that the metadata of a workspace declares. -/

set_option autoImplicit false

namespace BslLint.Metadata

/-- Where the metadata may be: a dump of the designer, or a project in one of two layouts. -/
def fileNames : List String :=
  ["Configuration.xml", "Configuration/Configuration.mdo", "src/Configuration/Configuration.mdo"]

def modeElement : List Char :=
  "compatibilityMode".toList

def base (root : Path) (configurationRoot : Option Path) : Path :=
  match configurationRoot with
  | some directory => root.join directory
  | none => root

def file? (tree : FileTree) (base : Path) : Option Path :=
  (fileNames.map (base / ·)).find? tree.isFile

/-- The mode in the first element of its name, which has to begin with the text of the mode. -/
def modeOfText? (text : List Char) : Option CompatibilityMode := do
  let document ← Xml.ofText? text
  let children ← Xml.Node.findElement? (Text.eqIgnoringAsciiCase · modeElement) document
  CompatibilityMode.ofChars? (← Xml.Node.firstText? children)

/-- The mode of a workspace; whatever is missing or unreadable leaves it unknown. -/
def mode? (tree : FileTree) (root : Path) (configurationRoot : Option Path) : Option CompatibilityMode := do
  let path ← file? tree (base root configurationRoot)
  modeOfText? (← (tree.readText path).toOption).toList

end BslLint.Metadata
