import BslLint.Proofs.Sorting
import BslLint.Proofs.Workspace.Following
import BslLint.Workspace.Discovery

/-! The files that are analyzed. Listing them fails only for an invalid pattern or a directory that is not there;
they come in the order of their paths, each of them once. -/

set_option autoImplicit false

namespace BslLint

namespace Path

theorem Component.le_iff (left right : Component) : left.le right = true ↔
    left.rank < right.rank ∨ left.rank = right.rank ∧ left.text ≤ right.text := by
  cases left <;> cases right <;> simp [le, rank, text]

theorem Component.le_trans (first second third : Component) (left : first.le second = true)
    (right : second.le third = true) : first.le third = true := by
  rw [le_iff] at *
  rcases left with left | ⟨rank, text⟩
  · rcases right with right | ⟨same, _⟩
    · exact .inl (Nat.lt_trans left right)
    · exact .inl (same ▸ left)
  · rcases right with right | ⟨same, textRight⟩
    · exact .inl (rank ▸ right)
    · exact .inr ⟨rank.trans same, String.le_trans text textRight⟩

theorem Component.le_total (left right : Component) : (left.le right || right.le left) = true := by
  rw [Bool.or_eq_true, le_iff, le_iff]
  rcases Nat.lt_trichotomy left.rank right.rank with lt | same | gt
  · exact .inl (.inl lt)
  · exact (String.le_total left.text right.text).imp (fun le => .inr ⟨same, le⟩) fun le => .inr ⟨same.symm, le⟩
  · exact .inr (.inl gt)

theorem Component.le_antisymm (left right : Component) (forth : left.le right = true)
    (back : right.le left = true) : left = right := by
  rw [le_iff] at forth back
  have rank : left.rank = right.rank := by omega
  have text : left.text = right.text := by
    rcases forth with lt | ⟨_, forth⟩
    · omega
    · rcases back with lt | ⟨_, back⟩
      · omega
      · exact String.le_antisymm forth back
  cases left <;> cases right <;> first | rfl | exact congrArg name text | cases rank

theorem componentsLe_trans {first second third : List Component} (left : componentsLe first second = true)
    (right : componentsLe second third = true) : componentsLe first third = true := by
  induction first generalizing second third with
  | nil => rfl
  | cons head first ih =>
    cases second with
    | nil => cases left
    | cons headSecond second =>
      cases third with
      | nil => cases right
      | cons headThird third =>
        exact lexicographic_trans Component.le_trans Component.le_antisymm left right fun near far => ih near far

theorem componentsLe_total (left right : List Component) :
    (componentsLe left right || componentsLe right left) = true := by
  induction left generalizing right with
  | nil => rfl
  | cons head left ih =>
    cases right with
    | nil => rfl
    | cons headRight right => exact lexicographic_total Component.le_total (ih right)

theorem le_trans (first second third : Path) (left : first.le second = true) (right : second.le third = true) :
    first.le third = true :=
  componentsLe_trans left right

theorem le_total (left right : Path) : (left.le right || right.le left) = true :=
  componentsLe_total left.components right.components

/-- One path stands before another one: it is smaller, and not the same in other words. -/
def Precedes (left right : Path) : Prop :=
  left.le right = true ∧ left.components ≠ right.components

structure IsName (name : String) : Prop where
  nonempty : name ≠ ""
  notHere : name ≠ "."
  notParent : name ≠ ".."
  noSlash : '/' ∉ name.toList

instance (name : String) : Decidable (IsName name) :=
  decidable_of_iff (name ≠ "" ∧ name ≠ "." ∧ name ≠ ".." ∧ '/' ∉ name.toList)
    ⟨fun ⟨nonempty, notHere, notParent, noSlash⟩ => ⟨nonempty, notHere, notParent, noSlash⟩,
      fun ⟨nonempty, notHere, notParent, noSlash⟩ => ⟨nonempty, notHere, notParent, noSlash⟩⟩

theorem IsName.steps {name : String} (isName : IsName name) : steps ⟨name⟩ = [.name name] := by
  rw [Path.steps, segments, Text.splitOn_of_not_mem isName.noSlash]
  simp [component?, isName.nonempty, isName.notHere, isName.notParent]

theorem IsName.isRelative {name : String} (isName : IsName name) : isAbsolute ⟨name⟩ = false := by
  cases absolute : isAbsolute ⟨name⟩ with
  | false => rfl
  | true =>
    rw [isAbsolute, beq_iff_eq] at absolute
    exact absurd (List.mem_of_mem_head? absolute) isName.noSlash

end Path

namespace Discovery

open BslLint.Path

theorem steps_entryPath (root : Path) {names : Place} (all : ∀ name ∈ names, IsName name) :
    (entryPath root names).steps = root.steps ++ names.map .name := by
  induction names generalizing root with
  | nil => exact (List.append_nil _).symm
  | cons name names ih =>
    have isName := all name List.mem_cons_self
    have joined : (root / name).steps = root.steps ++ [.name name] := by
      rw [← isName.steps]
      exact steps_join root isName.isRelative
    rw [entryPath, List.foldl_cons, ← entryPath, ih _ fun other mem => all other (List.mem_cons_of_mem _ mem), joined,
      List.append_assoc]
    rfl

end Discovery

/-- A tree in which every entry has a name that an entry may have. -/
def FileTree.WellNamed (tree : FileTree) : Prop :=
  ∀ entry ∈ tree.nodes, ∀ name ∈ entry.1, Path.IsName name

instance (tree : FileTree) : Decidable tree.WellNamed :=
  inferInstanceAs (Decidable (∀ entry ∈ tree.nodes, ∀ name ∈ entry.1, Path.IsName name))

namespace Discovery

open BslLint.Path

theorem components_ne_of_ne {root : Path} {left right : Place} (allLeft : ∀ name ∈ left, IsName name)
    (allRight : ∀ name ∈ right, IsName name) (differ : left ≠ right) :
    (entryPath root left).components ≠ (entryPath root right).components := by
  intro same
  have steps := steps_eq_of_components same
  rw [steps_entryPath root allLeft, steps_entryPath root allRight] at steps
  have names := List.append_cancel_left steps
  exact differ (List.map_injective_iff.mpr (fun _ _ same => Component.name.inj same) names)

variable {tree : FileTree} {place : Place}

theorem names_of_below {entry found : Place × FileNode}
    (below : (if place.isPrefixOf entry.1 && decide (place.length < entry.1.length) then
      some (entry.1.drop place.length, entry.2) else none) = some found) : entry.1 = place ++ found.1 := by
  split at below
  · rename_i inside
    cases below
    rw [Bool.and_eq_true, List.isPrefixOf_iff_prefix] at inside
    exact (List.prefix_iff_eq_append.mp inside.1).symm
  · cases below

theorem eq_of_kept {layers : List IgnoreLayer} {names found : Place} {node : FileNode}
    (kept : (match node with
      | .directory => none
      | .file _ => if reaches layers place names false then some names else none) = some found) : names = found := by
  split at kept
  · cases kept
  · split at kept
    · exact Option.some.inj kept
    · cases kept

theorem exists_of_mem_walk {names : Place} (mem : names ∈ walk tree place) :
    ∃ entry ∈ tree.nodes, entry.1 = place ++ names := by
  obtain ⟨⟨found, node⟩, below, kept⟩ := List.mem_filterMap.mp mem
  obtain ⟨entry, known, reached⟩ := List.mem_filterMap.mp below
  exact ⟨entry, known, by rw [names_of_below reached, eq_of_kept kept]⟩

theorem nodup_walk (tree : FileTree) (place : Place) : (walk tree place).Nodup := by
  have nodes : tree.nodes.Pairwise fun left right => left.1 ≠ right.1 := List.pairwise_map.mp tree.distinct
  have below : (tree.below place).Pairwise fun left right => left.1 ≠ right.1 := by
    refine nodes.filterMap _ ?_
    intro left right differ found belowLeft other belowRight same
    exact differ (by rw [names_of_below belowLeft, names_of_below belowRight, same])
  refine below.filterMap _ ?_
  rintro ⟨left, leftNode⟩ ⟨right, rightNode⟩ differ found keptLeft other keptRight same
  exact differ (by rw [eq_of_kept keptLeft, eq_of_kept keptRight, same])

theorem isName_of_mem_walk (wellNamed : tree.WellNamed) {names : Place} (mem : names ∈ walk tree place) :
    ∀ name ∈ names, IsName name := by
  obtain ⟨entry, known, split⟩ := exists_of_mem_walk mem
  exact fun name inside => wellNamed entry known name (by simp [split, inside])

-- Paths of entries in order: each of them stands once.
theorem paths_pairwise (wellNamed : tree.WellNamed) (root : Path) (patterns : List ExcludePattern) :
    (((select root patterns (walk tree place)).map (entryPath root)).mergeSort Path.le).Pairwise Precedes := by
  have ordered := List.pairwise_mergeSort Path.le_trans Path.le_total
    ((select root patterns (walk tree place)).map (entryPath root))
  refine ordered.and ?_
  -- Being different is symmetric, so it is enough to look at the paths before they are sorted.
  refine ((List.mergeSort_perm _ _).pairwise_iff fun differ => Ne.symm differ).mpr ?_
  refine List.pairwise_map.mpr (((nodup_walk tree place).filter _).imp_of_mem ?_)
  intro left right memLeft memRight differ
  exact components_ne_of_ne (isName_of_mem_walk wellNamed (List.mem_of_mem_filter memLeft))
    (isName_of_mem_walk wellNamed (List.mem_of_mem_filter memRight)) differ

/-- No directory is there to walk over. The path of the standard input counts as an empty directory. -/
def WalkFails (tree : FileTree) (root : Path) : Prop :=
  root.components ≠ standardInput.components ∧ ∃ error, tree.locate root = .error error

theorem parse_eq_error_iff (text : String) :
    (∃ error, ExcludePattern.parse text = .error error) ↔ ExcludePattern.ofText? text = none := by
  unfold ExcludePattern.parse
  cases ExcludePattern.ofText? text <;> simp

theorem mapM_parse_eq_error_iff (exclude : List String) :
    (∃ error, exclude.mapM ExcludePattern.parse = .error error) ↔
      ∃ text ∈ exclude, ExcludePattern.ofText? text = none := by
  induction exclude with
  | nil => simp [pure, Except.pure]
  | cons text exclude ih =>
    rw [List.mapM_cons, List.exists_mem_cons_iff, ← ih, ← parse_eq_error_iff]
    cases ExcludePattern.parse text with
    | error error => simp [bind, Except.bind]
    | ok pattern =>
      cases exclude.mapM ExcludePattern.parse <;> simp [bind, Except.bind, pure, Except.pure]

section

variable {root : Path} (notFile : tree.isFile root = false) {exclude : List String}
include notFile

theorem files_eq_error_iff : (∃ error, files tree root exclude = .error error) ↔
    (∃ text ∈ exclude, ExcludePattern.ofText? text = none) ∨ WalkFails tree root := by
  rw [← mapM_parse_eq_error_iff]
  unfold files WalkFails
  rw [notFile, if_neg Bool.false_ne_true]
  cases exclude.mapM ExcludePattern.parse with
  | error error => simp
  | ok patterns =>
    by_cases input : root.components = standardInput.components
    · simp [input]
    · cases tree.locate root <;> simp [input]

/-- What is listed are entries that the walk yields and no pattern excludes, in order. -/
theorem eq_of_files_eq_ok {paths : List Path} (listed : files tree root exclude = .ok paths) :
    paths = [] ∨ ∃ patterns place,
      paths = ((select root patterns (walk tree place)).map (entryPath root)).mergeSort Path.le := by
  unfold files at listed
  rw [notFile, if_neg Bool.false_ne_true] at listed
  split at listed
  · cases listed
  · rename_i patterns _
    split at listed
    · exact .inl (Except.ok.inj listed).symm
    · split at listed
      · cases listed
      · rename_i place _
        exact .inr ⟨patterns, place, (Except.ok.inj listed).symm⟩

theorem files_pairwise (wellNamed : tree.WellNamed) {paths : List Path}
    (listed : files tree root exclude = .ok paths) : paths.Pairwise Precedes := by
  rcases eq_of_files_eq_ok notFile listed with rfl | ⟨patterns, place, rfl⟩
  · exact .nil
  · exact paths_pairwise wellNamed root patterns

theorem fileType_of_mem_files {paths : List Path} (listed : files tree root exclude = .ok paths) {path : Path}
    (mem : path ∈ paths) : ∃ fileType, FileType.ofPath? path = some fileType := by
  rcases eq_of_files_eq_ok notFile listed with rfl | ⟨patterns, place, rfl⟩
  · cases mem
  · obtain ⟨names, selected, rfl⟩ := List.mem_map.mp (List.mem_mergeSort.mp mem)
    have source := (List.mem_filter.mp selected).2
    rw [Bool.and_eq_true] at source
    exact Option.isSome_iff_exists.mp source.1

end

end Discovery

end BslLint
