import BslLint.Proofs.Workspace.Metadata
import BslLint.Workspace.Discovery
import Mathlib.Data.List.Forall2

/-! Trees with the same entries, in which some files have another content. The same paths lead to the same places,
and a walk over them yields the same files, as long as the files that say what to ignore are not among the edited
ones. -/

set_option autoImplicit false

namespace BslLint

namespace Path

theorem getLast?_steps {path : Path} {name : String} (named : path.fileName? = some name) :
    path.steps.getLast? = some (.name name) := by
  have last : path.components.getLast? = some (.name name) := by
    unfold fileName? at named
    split at named
    · rename_i found
      cases named
      exact found
    · cases named
  rw [components_eq, List.getLast?_append] at last
  cases own : path.steps.getLast? with
  | some step =>
    rw [own] at last
    exact last
  | none =>
    -- Without steps only the start of the path is left, which is no name.
    rw [own, Option.none_or] at last
    split at last
    · cases last
    · split at last <;> cases last

-- The last segment that says where to go is the name of the path.
theorem segments_of_fileName? {path : Path} {name : String} (named : path.fileName? = some name) :
    ∃ before after, path.segments = before ++ name :: after ∧ component? name = some (.name name) ∧
      ∀ segment ∈ after, component? segment = none := by
  obtain ⟨above, split⟩ := List.getLast?_eq_some_iff.mp (getLast?_steps named)
  obtain ⟨before, rest, segments, _, own⟩ := List.filterMap_eq_append_iff.mp split
  obtain ⟨skipped, segment, after, rfl, _, found, silent⟩ := List.filterMap_eq_cons_iff.mp own
  obtain rfl : name = segment := (component?_eq_some found).1
  exact ⟨before ++ skipped, after, by rw [segments, List.append_assoc], found, List.filterMap_eq_nil_iff.mp silent⟩

end Path

namespace FileTree

theorem enter_eq_ok {tree : FileTree} {place next : Place} {segment : String}
    (entered : tree.enter place segment = .ok next) :
    Path.component? segment = none ∧ next = place ∨ Path.component? segment = some .parent ∧ next = place.dropLast ∨
      Path.component? segment = some (.name segment) ∧ next = place ++ [segment] := by
  unfold enter at entered
  unfold Path.component?
  split at entered
  · cases entered
  · cases entered
  · split at entered
    · rename_i silent
      cases entered
      exact .inl ⟨if_pos silent, rfl⟩
    · rename_i moves
      rw [if_neg moves]
      split at entered
      · rename_i parent
        cases entered
        exact .inr (.inl ⟨if_pos parent, rfl⟩)
      · rename_i name
        rw [if_neg name]
        split at entered
        · cases entered
        · split at entered
          · cases entered
            exact .inr (.inr ⟨rfl, rfl⟩)
          · cases entered

theorem follow_eq_of_silent {tree : FileTree} {place next : Place} {segments : List String}
    (silent : ∀ segment ∈ segments, Path.component? segment = none)
    (followed : tree.follow place segments = .ok next) : next = place := by
  induction segments generalizing place with
  | nil =>
    cases followed
    rfl
  | cons segment rest ih =>
    rw [follow, List.foldlM_cons] at followed
    cases entered : tree.enter place segment with
    | error error =>
      rw [entered] at followed
      cases followed
    | ok middle =>
      rw [entered] at followed
      have own := silent segment List.mem_cons_self
      have same : middle = place := by simpa [own] using enter_eq_ok entered
      subst same
      exact ih (fun other mem => silent other (List.mem_cons_of_mem _ mem)) followed

-- A path that ends in a name leads to a place of that name.
theorem getLast?_of_locate {tree : FileTree} {path : Path} {name : String} {place : Place}
    (named : path.fileName? = some name) (located : tree.locate path = .ok place) : place.getLast? = some name := by
  obtain ⟨before, after, segments, own, silent⟩ := Path.segments_of_fileName? named
  unfold locate at located
  split at located
  · cases located
  split at located
  · cases located
  rw [segments, follow_append] at located
  cases reached : tree.follow (tree.origin path) before with
  | error error =>
    rw [reached] at located
    cases located
  | ok above =>
    rw [reached] at located
    change tree.follow above (name :: after) = .ok place at located
    rw [follow, List.foldlM_cons] at located
    cases entered : tree.enter above name with
    | error error =>
      rw [entered] at located
      cases located
    | ok middle =>
      rw [entered] at located
      have below : middle = above ++ [name] := by simpa [own] using enter_eq_ok entered
      rw [follow_eq_of_silent silent located, below, List.getLast?_concat]

-- The names of files that say what is ignored, or for which platform a workspace is.
def guidingNames : List String :=
  [IgnoreLayer.ignoreName, IgnoreLayer.repositoryIgnoreName, "exclude", "Configuration.xml", "Configuration.mdo"]

def Guides (place : Place) : Prop :=
  ∃ name ∈ guidingNames, place.getLast? = some name

instance (place : Place) : Decidable (Guides place) :=
  inferInstanceAs (Decidable (∃ name ∈ guidingNames, place.getLast? = some name))

variable (edit : Place → ByteArray → ByteArray → Prop)

inductive EditsNode (place : Place) : FileNode → FileNode → Prop where
  | kept (node : FileNode) : EditsNode place node node
  | edited {content other : ByteArray} : edit place content other → ¬ Guides place →
      EditsNode place (.file content) (.file other)

/-- Two trees that have the same entries, and the same files but for edits. -/
structure Edits (tree other : FileTree) : Prop where
  here : other.here = tree.here
  nodes : List.Forall₂ (fun entry edited => edited.1 = entry.1 ∧ EditsNode edit entry.1 entry.2 edited.2)
    tree.nodes other.nodes

variable {edit}

-- Instead of one file, another one may be put at a place.
theorem edits_putFile (tree : FileTree) {place : Place} {content other : ByteArray}
    (edited : edit place content other) (free : ¬ Guides place) :
    (tree.putFile place content).Edits edit (tree.putFile place other) :=
  ⟨rfl, .cons ⟨rfl, .edited edited free⟩ (List.forall₂_same.mpr fun entry _ => ⟨rfl, .kept entry.2⟩)⟩

namespace Edits

variable {tree other : FileTree} (edits : tree.Edits edit other)
include edits

-- A place has the same node as before, or its file has been edited.
theorem node?_cases (place : Place) : other.node? place = tree.node? place ∨
    ∃ content edited, tree.node? place = some (.file content) ∧ other.node? place = some (.file edited) ∧
      edit place content edited ∧ ¬ Guides place := by
  unfold node?
  split
  · exact .inl rfl
  · have nodes := edits.nodes
    generalize tree.nodes = before at nodes ⊢
    generalize other.nodes = after at nodes ⊢
    induction nodes with
    | nil => exact .inl rfl
    | @cons entry edited _ _ own _ ih =>
      obtain ⟨_, node⟩ := entry
      obtain ⟨there, editedNode⟩ := edited
      obtain ⟨rfl, own⟩ := own
      simp only [List.lookup_cons]
      cases same : place == there with
      | false => exact ih
      | true =>
        cases eq_of_beq same
        cases own with
        | kept _ => exact .inl rfl
        | edited change free => exact .inr ⟨_, _, rfl, rfl, change, free⟩

theorem isSome_node? (place : Place) : (other.node? place).isSome = (tree.node? place).isSome := by
  rcases edits.node?_cases place with same | ⟨content, edited, before, after, _⟩
  · rw [same]
  · rw [before, after]
    rfl

theorem node?_of_guides {place : Place} (guides : Guides place) : other.node? place = tree.node? place := by
  rcases edits.node?_cases place with same | ⟨_, _, _, _, _, free⟩
  · exact same
  · exact absurd guides free

theorem enter_eq (place : Place) (segment : String) : other.enter place segment = tree.enter place segment := by
  unfold enter
  rw [edits.isSome_node?]
  rcases edits.node?_cases place with same | ⟨content, edited, before, after, _⟩
  · rw [same]
  · rw [before, after]

theorem locate_eq (path : Path) : other.locate path = tree.locate path := by
  have same : other.enter = tree.enter := funext fun place => funext fun segment => edits.enter_eq place segment
  rw [locate, locate, follow, follow, origin, origin, edits.here, same]

-- A path finds the same as before, or a file that has been edited.
theorem find_cases (path : Path) : other.find path = tree.find path ∨
    ∃ place content edited, tree.locate path = .ok place ∧ tree.find path = .ok (.file content) ∧
      other.find path = .ok (.file edited) ∧ edit place content edited ∧ ¬ Guides place := by
  unfold find
  rw [edits.locate_eq]
  cases tree.locate path with
  | error error => exact .inl rfl
  | ok place =>
    simp only [bind, Except.bind]
    rcases edits.node?_cases place with same | ⟨content, edited, before, after, change, free⟩
    · exact .inl (by rw [same])
    · exact .inr ⟨place, content, edited, rfl, by rw [before]; rfl, by rw [after]; rfl, change, free⟩

theorem isFile_eq (path : Path) : other.isFile path = tree.isFile path := by
  unfold isFile
  rcases edits.find_cases path with same | ⟨_, _, _, _, before, after, _⟩
  · rw [same]
  · rw [before, after]

/-- A path reads the same as before, or the content of a file that has been edited. -/
theorem read_cases (path : Path) : other.read path = tree.read path ∨
    ∃ place content edited, tree.locate path = .ok place ∧ tree.read path = .ok content ∧
      other.read path = .ok edited ∧ edit place content edited ∧ ¬ Guides place := by
  unfold read
  rcases edits.find_cases path with same | ⟨place, content, edited, located, before, after, change, free⟩
  · exact .inl (by rw [same])
  · exact .inr ⟨place, content, edited, located, by rw [before]; rfl, by rw [after]; rfl, change, free⟩

-- A path that leads to no edited file reads the same as before.
theorem readText_eq {path : Path}
    (kept : ∀ place content edited, tree.locate path = .ok place → edit place content edited → Guides place) :
    other.readText path = tree.readText path := by
  unfold readText
  rcases edits.read_cases path with same | ⟨place, content, edited, located, _, _, change, free⟩
  · rw [same]
  · exact absurd (kept place content edited located change) free

theorem rulesAt_eq {place : Place} (guides : Guides place) :
    IgnoreLayer.rulesAt other place = IgnoreLayer.rulesAt tree place := by
  rw [IgnoreLayer.rulesAt, IgnoreLayer.rulesAt, edits.node?_of_guides guides]

theorem ofDirectory_eq (directory : Place) :
    IgnoreLayer.ofDirectory other directory = IgnoreLayer.ofDirectory tree directory := by
  have guides {above : Place} {name : String} (known : name ∈ guidingNames) : Guides (above ++ [name]) :=
    ⟨name, known, List.getLast?_concat⟩
  have exclude : Guides (directory ++ [IgnoreLayer.repositoryName, "info", "exclude"]) := by
    rw [List.append_cons, List.append_cons]
    exact guides (by decide)
  unfold IgnoreLayer.ofDirectory
  rw [edits.rulesAt_eq (guides (by decide)), edits.rulesAt_eq (guides (by decide)), edits.rulesAt_eq exclude,
    edits.isSome_node?]

/-- Whatever is seen of the entries, but for the contents of files, is the same. -/
theorem filterMap_nodes_eq {Value : Type} {see : Place × FileNode → Option Value}
    (blind : ∀ place content edited, see (place, .file edited) = see (place, .file content)) :
    other.nodes.filterMap see = tree.nodes.filterMap see := by
  have nodes := edits.nodes
  generalize tree.nodes = before at nodes ⊢
  generalize other.nodes = after at nodes ⊢
  induction nodes with
  | nil => rfl
  | @cons entry edited _ _ own _ ih =>
    obtain ⟨_, node⟩ := entry
    obtain ⟨there, editedNode⟩ := edited
    obtain ⟨rfl, own⟩ := own
    have same : see (there, editedNode) = see (there, node) := by
      cases own with
      | kept _ => rfl
      | edited _ _ => exact blind _ _ _
    simp only [List.filterMap_cons, same, ih]

theorem layers_eq : IgnoreLayer.ofTree other = IgnoreLayer.ofTree tree := by
  have same : IgnoreLayer.directories other = IgnoreLayer.directories tree :=
    congrArg List.eraseDups (edits.filterMap_nodes_eq fun _ _ _ => rfl)
  unfold IgnoreLayer.ofTree
  rw [same]
  exact List.map_congr_left fun directory _ => edits.ofDirectory_eq directory

theorem walk_eq (root : Place) : Discovery.walk other root = Discovery.walk tree root := by
  unfold Discovery.walk below
  rw [edits.layers_eq, List.filterMap_filterMap, List.filterMap_filterMap]
  refine edits.filterMap_nodes_eq fun place content edited => ?_
  dsimp only
  split <;> rfl

theorem files_eq (path : Path) (exclude : List String) :
    Discovery.files other path exclude = Discovery.files tree path exclude := by
  unfold Discovery.files
  rw [edits.isFile_eq, edits.locate_eq]
  simp only [edits.walk_eq]

theorem readText_metadata_eq (base : Path) {name : String} (known : name ∈ Metadata.fileNames) :
    other.readText (base / name) = tree.readText (base / name) := by
  have guiding : ∀ name ∈ Metadata.fileNames, ∃ last ∈ guidingNames, (Path.mk name).fileName? = some last := by decide
  obtain ⟨last, guides, named⟩ := guiding name known
  rw [← Path.fileName?_eq_of_steps (Metadata.endsInStep_of_mem_fileNames known).steps_ne_nil
    (Path.steps_join base (Metadata.isRelative_of_mem_fileNames known))] at named
  exact edits.readText_eq fun place _ _ located _ => ⟨last, guides, getLast?_of_locate named located⟩

theorem mode?_eq (root : Path) (configurationRoot : Option Path) :
    Metadata.mode? other root configurationRoot = Metadata.mode? tree root configurationRoot := by
  rw [Metadata.mode?_eq, Metadata.mode?_eq, Metadata.file?_eq, Metadata.file?_eq]
  simp only [edits.isFile_eq]
  cases found : Metadata.fileNames.find? fun name => tree.isFile (Metadata.base root configurationRoot / name) with
  | none => rfl
  | some name =>
    simp only [Option.map_some, edits.readText_metadata_eq _ (List.mem_of_find?_eq_some found)]

end Edits

/-- An analysis of a path finds the same in two trees: the same files to analyze, the same texts in those that are
sources, and the same metadata of the workspace `root`. -/
structure SameSources (path : Path) (exclude : List String) (root : Path) (tree other : FileTree) : Prop where
  isFile : other.isFile path = tree.isFile path
  files : Discovery.files other path exclude = Discovery.files tree path exclude
  texts : ∀ paths, Discovery.files tree path exclude = .ok paths → ∀ file ∈ paths,
    FileType.ofPath? file ≠ none → other.readText file = tree.readText file
  mode : ∀ configurationRoot,
    Metadata.mode? other root configurationRoot = Metadata.mode? tree root configurationRoot

theorem Edits.sameSources {tree other : FileTree} (edits : tree.Edits edit other)
    (apart : ∀ place content edited, edit place content edited →
      ∀ path, path.fileName? = place.getLast? → FileType.ofPath? path = none)
    (path : Path) (exclude : List String) (root : Path) : SameSources path exclude root tree other where
  isFile := edits.isFile_eq path
  files := edits.files_eq path exclude
  texts _ _ file _ supported := by
    refine edits.readText_eq fun place content edited located change => ?_
    cases named : file.fileName? with
    | none =>
      refine absurd ?_ supported
      simp [FileType.ofPath?, Path.hasExtension, Path.extension?, named]
    | some name =>
      exact absurd (apart place content edited change file (named.trans (getLast?_of_locate named located).symm))
        supported
  mode := edits.mode?_eq root

end FileTree

end BslLint
