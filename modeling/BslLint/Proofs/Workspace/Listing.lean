import BslLint.Proofs.Text.Casing
import BslLint.Proofs.Text.Space
import BslLint.Proofs.Workspace.Exclusion

/-! What is listed of a directory. Its sources are the modules and scripts that a walk over it yields, in the order of their
paths. Patterns only take some of them away, each on its own, so that it does not matter in which order they are given. -/

set_option autoImplicit false

namespace BslLint

namespace Path

open Text

/-- What follows the last dot of a name, if the name does not start with that dot. -/
def HasExtension (name extension : List Char) : Prop :=
  '.' ∉ extension ∧ ∃ stem, stem ≠ [] ∧ name = stem ++ '.' :: extension

theorem extensionOf_eq_some_iff {name extension : List Char} :
    extensionOf name = some extension ↔ HasExtension name extension := by
  unfold extensionOf
  constructor
  · intro found
    -- The name is read from its end, up to the dot that stands first there.
    have whole : name.reverse.takeWhile (· != '.') ++ name.reverse.dropWhile (· != '.') = name.reverse :=
      List.takeWhile_append_dropWhile
    have stops : ∀ char ∈ (name.reverse.dropWhile (· != '.')).head?, (char != '.') = false := head?_dropWhile _
    dsimp only at found
    split at found
    · cases found
    · cases found
    · rename_i dot before last rest
      rw [rest] at whole stops
      have isDot : dot = '.' := by simpa using stops dot rfl
      rw [isDot] at whole
      cases found
      refine ⟨fun mem => ?_, (before :: last).reverse, by simp, ?_⟩
      · have other := List.mem_takeWhile_imp (List.mem_reverse.mp mem)
        simp at other
      · simpa using (congrArg List.reverse whole).symm
  · rintro ⟨noDot, stem, nonempty, rfl⟩
    have all : ∀ char ∈ extension.reverse, (char != '.') = true := by
      intro char mem
      simpa using fun same : char = '.' => noDot (same ▸ List.mem_reverse.mp mem)
    have taken : (stem ++ '.' :: extension).reverse.takeWhile (· != '.') = extension.reverse := by
      simp [List.takeWhile_append_of_pos all]
    have left : (stem ++ '.' :: extension).reverse.dropWhile (· != '.') = '.' :: stem.reverse := by
      simp [List.dropWhile_append_of_pos all]
    dsimp only
    rw [taken, left]
    cases reversed : stem.reverse with
    | nil => exact absurd (List.reverse_eq_nil_iff.mp reversed) nonempty
    | cons last before => simp

theorem hasExtension_iff {path : Path} {name expected : String} (named : path.fileName? = some name) :
    path.hasExtension expected = true ↔
      ∃ extension, HasExtension name.toList extension ∧ InAnyCase extension expected.toList := by
  rw [hasExtension, extension?, named, Option.bind_some]
  simp only [← extensionOf_eq_some_iff, ← eqIgnoringAsciiCase_iff]
  cases extensionOf name.toList <;> simp

end Path

namespace FileTree

theorem mem_tail_approach_iff {place above : Place} : above ∈ (approach place).tail ↔ above ≠ [] ∧ above <+: place := by
  have places : (approach place).tail = (List.range place.length).map fun length => place.take (length + 1) := by
    rw [approach, List.range_succ_eq_map, List.map_cons, List.tail_cons, List.map_map]
    rfl
  rw [places, List.mem_map]
  constructor
  · rintro ⟨length, below, rfl⟩
    refine ⟨fun empty => ?_, List.take_prefix _ _⟩
    have short := congrArg List.length empty
    rw [List.length_take, List.length_nil] at short
    rw [List.mem_range] at below
    omega
  · rintro ⟨nonempty, before⟩
    have positive := List.length_pos_iff.mpr nonempty
    refine ⟨above.length - 1, List.mem_range.mpr ?_, ?_⟩
    · have le := before.length_le
      omega
    · rw [Nat.sub_add_cancel positive]
      exact (List.prefix_iff_eq_take.mp before).symm

end FileTree

namespace Discovery

open BslLint.Path Text

/-- A regular file below a directory that the ignore files keep, as they keep the directories on the way to it. -/
structure Reached (tree : FileTree) (place names : Place) : Prop where
  below : names ≠ []
  regular : ∃ content, (place ++ names, .file content) ∈ tree.nodes
  directories : ∀ above, above ≠ [] → above <+: names.dropLast →
    IgnoreLayer.keeps (IgnoreLayer.ofTree tree) (place ++ above) true = true
  kept : IgnoreLayer.keeps (IgnoreLayer.ofTree tree) (place ++ names) false = true

theorem reaches_iff {layers : List IgnoreLayer} {place names : Place} {isDirectory : Bool} :
    reaches layers place names isDirectory = true ↔
      (∀ above, above ≠ [] → above <+: names.dropLast → IgnoreLayer.keeps layers (place ++ above) true = true) ∧
        IgnoreLayer.keeps layers (place ++ names) isDirectory = true := by
  rw [reaches, Bool.and_eq_true, List.all_eq_true]
  simp only [FileTree.mem_tail_approach_iff, and_imp]

theorem mem_below_iff {tree : FileTree} {place names : Place} {node : FileNode} :
    (names, node) ∈ tree.below place ↔ names ≠ [] ∧ (place ++ names, node) ∈ tree.nodes := by
  rw [FileTree.below, List.mem_filterMap]
  constructor
  · rintro ⟨entry, mem, below⟩
    have split := names_of_below below
    obtain ⟨entry, found⟩ := entry
    dsimp only at below split
    split at below
    · rename_i inside
      cases below
      rw [Bool.and_eq_true, decide_eq_true_eq] at inside
      refine ⟨fun empty => ?_, split ▸ mem⟩
      have short := congrArg List.length empty
      rw [List.length_drop, List.length_nil] at short
      omega
    · cases below
  · rintro ⟨nonempty, mem⟩
    have positive := List.length_pos_iff.mpr nonempty
    refine ⟨_, mem, ?_⟩
    simp [List.isPrefixOf_iff_prefix, positive]

theorem mem_walk_iff {tree : FileTree} {place names : Place} : names ∈ walk tree place ↔ Reached tree place names := by
  rw [walk, List.mem_filterMap]
  constructor
  · rintro ⟨⟨found, node⟩, below, kept⟩
    cases node with
    | directory => cases kept
    | file content =>
      obtain ⟨nonempty, mem⟩ := mem_below_iff.mp below
      dsimp only at kept
      split at kept
      · rename_i reached
        cases kept
        obtain ⟨directories, kept⟩ := reaches_iff.mp reached
        exact ⟨nonempty, ⟨content, mem⟩, directories, kept⟩
      · cases kept
  · rintro ⟨nonempty, ⟨content, mem⟩, directories, kept⟩
    refine ⟨(names, .file content), mem_below_iff.mpr ⟨nonempty, mem⟩, ?_⟩
    dsimp only
    rw [if_pos (reaches_iff.mpr ⟨directories, kept⟩)]

/-- A walk over a directory yields a file. Nothing is yielded where the path stands for the standard input. -/
def Yields (tree : FileTree) (root : Path) (names : Place) : Prop :=
  root.components ≠ standardInput.components ∧ ∃ place, tree.locate root = .ok place ∧ Reached tree place names

theorem isName_of_yields {tree : FileTree} (wellNamed : tree.WellNamed) {root : Path} {names : Place}
    (yields : Yields tree root names) : ∀ name ∈ names, IsName name := by
  obtain ⟨_, place, _, reached⟩ := yields
  exact isName_of_mem_walk wellNamed (mem_walk_iff.mpr reached)

-- The last name of an entry has an extension of modules or scripts, in any case.
def IsSource (names : Place) : Prop :=
  ∃ name, names.getLast? = some name ∧
    ∃ extension, HasExtension name.toList extension ∧
      (InAnyCase extension "bsl".toList ∨ InAnyCase extension "os".toList)

theorem fileName?_entryPath (root : Path) {names : Place} (all : ∀ name ∈ names, IsName name) (nonempty : names ≠ []) :
    (entryPath root names).fileName? = names.getLast? := by
  have more : names.map Component.name ≠ [] := by simpa using nonempty
  rw [fileName?, components_eq, steps_entryPath root all, ← List.append_assoc, List.getLast?_append_of_ne_nil _ more,
    List.getLast?_map]
  cases names.getLast? <;> rfl

theorem isSome_ofPath?_iff {path : Path} {name : String} (named : path.fileName? = some name) :
    (FileType.ofPath? path).isSome = true ↔ ∃ extension, HasExtension name.toList extension ∧
      (InAnyCase extension "bsl".toList ∨ InAnyCase extension "os".toList) := by
  have either : (FileType.ofPath? path).isSome = true ↔
      path.hasExtension "bsl" = true ∨ path.hasExtension "os" = true := by
    unfold FileType.ofPath?
    cases path.hasExtension "bsl" <;> cases path.hasExtension "os" <;> simp
  rw [either, hasExtension_iff named, hasExtension_iff named, ← exists_or]
  simp only [and_or_left]

theorem isSource_iff (root : Path) {names : Place} (all : ∀ name ∈ names, IsName name) (nonempty : names ≠ []) :
    isSource root names = true ↔ IsSource names := by
  have named := fileName?_entryPath root all nonempty
  rw [List.getLast?_eq_some_getLast nonempty] at named
  rw [isSource, isSome_ofPath?_iff named, IsSource, List.getLast?_eq_some_getLast nonempty]
  simp

def relativeTo (root path : Path) : List Char :=
  ("/".intercalate ((path.steps.drop root.steps.length).map Component.text)).toList

theorem relativeTo_entryPath (root : Path) {names : Place} (all : ∀ name ∈ names, IsName name) :
    relativeTo root (entryPath root names) = relativeText names := by
  rw [relativeTo, steps_entryPath root all, List.drop_left, List.map_map, relativeText]
  exact congrArg (fun names => ("/".intercalate names).toList) (List.map_id names)

def excluded (exclude : List String) (relative : List Char) : Bool :=
  exclude.any fun text => (ExcludePattern.ofText? text).any fun pattern => pattern.excludes relative

/-- The paths below a directory that no pattern of a list excludes. -/
def remaining (root : Path) (exclude : List String) (paths : List Path) : List Path :=
  paths.filter fun path => !excluded exclude (relativeTo root path)

theorem excluded_eq_false_iff {exclude : List String} {relative : List Char} : excluded exclude relative = false ↔
    ∀ text ∈ exclude, ∀ pattern, ExcludePattern.ofText? text = some pattern → pattern.excludes relative = false := by
  rw [excluded, List.any_eq_false]
  simp only [Option.any_eq_true, Bool.not_eq_true, not_exists, not_and]

theorem remaining_append (root : Path) (first second : List String) (paths : List Path) :
    remaining root (first ++ second) paths = remaining root second (remaining root first paths) := by
  rw [remaining, remaining, remaining, List.filter_filter]
  refine List.filter_congr fun path _ => ?_
  rw [excluded, List.any_append, Bool.not_or, Bool.and_comm]
  rfl

theorem remaining_comm (root : Path) (first second : List String) (paths : List Path) :
    remaining root first (remaining root second paths) = remaining root second (remaining root first paths) :=
  List.filter_comm _ _ _

theorem remaining_sublist (root : Path) {exclude more : List String} (covers : ∀ text ∈ exclude, text ∈ more)
    (paths : List Path) : (remaining root more paths).Sublist (remaining root exclude paths) := by
  refine List.monotone_filter_right paths fun path kept => ?_
  rw [Bool.not_eq_true', excluded_eq_false_iff] at kept ⊢
  exact fun text mem => kept text (covers text mem)

theorem parse_eq_ok_iff {text : String} {pattern : ExcludePattern} :
    ExcludePattern.parse text = .ok pattern ↔ ExcludePattern.ofText? text = some pattern := by
  unfold ExcludePattern.parse
  cases ExcludePattern.ofText? text <;> simp

/-- It is an invalid pattern of the list that makes reading the list fail. -/
theorem exists_of_mapM_parse_eq_error {exclude : List String} {error : InvalidExclude}
    (failed : exclude.mapM ExcludePattern.parse = .error error) :
    ∃ text ∈ exclude, ExcludePattern.ofText? text = none ∧ error = ⟨text⟩ := by
  induction exclude with
  | nil => cases failed
  | cons text exclude ih =>
    rw [List.mapM_cons] at failed
    cases read : ExcludePattern.ofText? text with
    | none =>
      have refused : ExcludePattern.parse text = .error ⟨text⟩ := by simp only [ExcludePattern.parse, read]
      rw [refused] at failed
      cases failed
      exact ⟨text, List.mem_cons_self, read, rfl⟩
    | some pattern =>
      rw [parse_eq_ok_iff.mpr read] at failed
      cases rest : exclude.mapM ExcludePattern.parse with
      | ok patterns =>
        rw [rest] at failed
        cases failed
      | error other =>
        rw [rest] at failed
        cases failed
        obtain ⟨text, mem, invalid⟩ := ih rest
        exact ⟨text, List.mem_cons_of_mem _ mem, invalid⟩

theorem parse_valid {exclude : List String} (valid : ∀ text ∈ exclude, ExcludePattern.ofText? text ≠ none) :
    ∃ patterns, exclude.mapM ExcludePattern.parse = .ok patterns := by
  cases parsed : exclude.mapM ExcludePattern.parse with
  | error error =>
    obtain ⟨text, mem, invalid⟩ := (mapM_parse_eq_error_iff exclude).mp ⟨error, parsed⟩
    exact absurd invalid (valid text mem)
  | ok patterns => exact ⟨patterns, rfl⟩

theorem any_excludes {exclude : List String} {patterns : List ExcludePattern}
    (parsed : exclude.mapM ExcludePattern.parse = .ok patterns) (relative : List Char) :
    (patterns.any fun pattern => pattern.excludes relative) = excluded exclude relative := by
  rw [Bool.eq_iff_iff, List.any_eq_true, excluded, List.any_eq_true]
  simp only [mem_iff_of_mapM_eq_ok parsed, parse_eq_ok_iff, Option.any_eq_true]
  constructor
  · rintro ⟨pattern, ⟨text, mem, read⟩, excludes⟩
    exact ⟨text, mem, pattern, read, excludes⟩
  · rintro ⟨text, mem, pattern, read, excludes⟩
    exact ⟨pattern, ⟨text, mem, read⟩, excludes⟩

variable {tree : FileTree} {root : Path}

theorem isFile_of_directory (directory : tree.find root = .ok .directory) : tree.isFile root = false := by
  rw [FileTree.isFile, directory]

theorem exists_locate_of_directory (directory : tree.find root = .ok .directory) :
    ∃ place, tree.locate root = .ok place := by
  cases located : tree.locate root with
  | error error =>
    rw [FileTree.find, located] at directory
    cases directory
  | ok place => exact ⟨place, rfl⟩

theorem files_eq_mergeSort {place : Place} {exclude : List String} {patterns : List ExcludePattern}
    (notFile : tree.isFile root = false) (notInput : root.components ≠ standardInput.components)
    (located : tree.locate root = .ok place) (parsed : exclude.mapM ExcludePattern.parse = .ok patterns) :
    files tree root exclude = .ok (((select root patterns (walk tree place)).map (entryPath root)).mergeSort Path.le) := by
  simp [files, notFile, notInput, located, parsed]

/-- What patterns exclude of the entries of a directory they exclude of their paths. -/
theorem map_select (wellNamed : tree.WellNamed) (root : Path) (place : Place) {exclude : List String}
    {patterns : List ExcludePattern} (parsed : exclude.mapM ExcludePattern.parse = .ok patterns) :
    (select root patterns (walk tree place)).map (entryPath root) =
      remaining root exclude ((select root [] (walk tree place)).map (entryPath root)) := by
  rw [remaining, List.filter_map, select, select, List.filter_filter]
  congr 1
  refine List.filter_congr fun names mem => ?_
  have relative := relativeTo_entryPath root (isName_of_mem_walk wellNamed mem)
  rw [any_excludes parsed, Function.comp_apply, relative, List.any_nil, Bool.not_false, Bool.and_true, Bool.and_comm]

theorem remaining_mergeSort (root : Path) (exclude : List String) (paths : List Path) :
    remaining root exclude (paths.mergeSort Path.le) = (remaining root exclude paths).mergeSort Path.le :=
  filter_mergeSort Path.le_trans Path.le_total _ _

/-- There is one list of the sources of a directory, and what is listed of it is what patterns leave of that list. -/
theorem exists_sources (wellNamed : tree.WellNamed) (directory : tree.find root = .ok .directory) :
    ∃ sources : List Path, sources.Pairwise Precedes ∧
      (∀ path, path ∈ sources ↔ ∃ names, Yields tree root names ∧ IsSource names ∧ path = entryPath root names) ∧
      ∀ exclude, (∀ text ∈ exclude, ExcludePattern.ofText? text ≠ none) →
        files tree root exclude = .ok (remaining root exclude sources) := by
  obtain ⟨place, located⟩ := exists_locate_of_directory directory
  have notFile := isFile_of_directory directory
  by_cases input : root.components = standardInput.components
  · refine ⟨[], .nil, fun path => ?_, fun exclude valid => ?_⟩
    · simp [Yields, input]
    · obtain ⟨patterns, parsed⟩ := parse_valid valid
      simp [files, notFile, parsed, input, remaining]
  · -- The sources are what is listed without any pattern.
    refine ⟨((select root [] (walk tree place)).map (entryPath root)).mergeSort Path.le,
      paths_pairwise wellNamed root [], fun path => ?_, fun exclude valid => ?_⟩
    · rw [List.mem_mergeSort, List.mem_map]
      constructor
      · rintro ⟨names, mem, rfl⟩
        obtain ⟨walked, source⟩ := List.mem_filter.mp mem
        have reached := mem_walk_iff.mp walked
        rw [Bool.and_eq_true, isSource_iff root (isName_of_mem_walk wellNamed walked) reached.below] at source
        exact ⟨names, ⟨input, place, located, reached⟩, source.1, rfl⟩
      · rintro ⟨names, ⟨_, other, there, reached⟩, source, rfl⟩
        rw [located, Except.ok.injEq] at there
        subst there
        have walked := mem_walk_iff.mpr reached
        rw [← isSource_iff root (isName_of_mem_walk wellNamed walked) reached.below] at source
        exact ⟨names, List.mem_filter.mpr ⟨walked, by simp [source]⟩, rfl⟩
    · obtain ⟨patterns, parsed⟩ := parse_valid valid
      rw [remaining_mergeSort, ← map_select wellNamed root place parsed]
      exact files_eq_mergeSort notFile input located parsed

end Discovery

end BslLint
