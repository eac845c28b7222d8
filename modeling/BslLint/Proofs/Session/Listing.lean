import BslLint.Check.Registry
import BslLint.Proofs.Session.Analysis
import BslLint.Proofs.Workspace.Listing

/-! What a session lists of a directory before it analyzes it. -/

set_option autoImplicit false

namespace BslLint

namespace Session

open Discovery BslLint.Path

variable {State : Type} [Rule State]

theorem call_reportFiles_ne_unsupported {tree : FileTree} (session : Session State) (only : Option (List String))
    (report : Report) {paths : List Path} (supported : ∀ path ∈ paths, ∃ fileType, FileType.ofPath? path = some fileType)
    (other : Path) : (session.call (reportFiles tree only report paths)).1 ≠ .error (.unsupportedFile other) := by
  induction paths generalizing session report with
  | nil => exact nofun
  | cons path paths ih =>
    rw [call_reportFiles_cons]
    obtain ⟨fileType, known⟩ := supported path List.mem_cons_self
    rw [known]
    cases tree.readText path with
    | error error => exact nofun
    | ok content => exact ih _ _ fun other mem => supported other (List.mem_cons_of_mem path mem)

theorem call_analyzeTree_ne_unsupported {tree : FileTree} {root : Path} (notFile : tree.isFile root = false)
    (session : Session State) (options : TreeOptions) (other : Path) :
    (session.call (analyzeTree tree root options)).1 ≠ .error (.unsupportedFile other) := by
  unfold analyzeTree
  cases listed : files tree root options.exclude with
  | error error => cases error <;> exact nofun
  | ok paths =>
    exact call_reportFiles_ne_unsupported session _ _ (fun path mem => fileType_of_mem_files notFile listed mem) other

/-- What is listed of a directory and what patterns do to it. -/
structure ListsSources (session : Session State) (tree : FileTree) (root : Path) : Prop where
  lists : ∀ exclude, (∀ text ∈ exclude, ExcludePattern.ofText? text ≠ none) →
    ∃ found, files tree root exclude = .ok found ∧ found.Pairwise Precedes ∧
      ∀ path, path ∈ found ↔ ∃ names, Yields tree root names ∧ IsSource names ∧ path = entryPath root names ∧
        ∀ text ∈ exclude, ∀ pattern, ExcludePattern.ofText? text = some pattern →
          pattern.excludes (relativeText names) = false
  concatenated : ∀ first second, (∀ text ∈ first ++ second, ExcludePattern.ofText? text ≠ none) →
    ∃ found, files tree root first = .ok found ∧
      files tree root (first ++ second) = .ok (remaining root second found) ∧
      files tree root (second ++ first) = .ok (remaining root second found)
  fewer : ∀ exclude more, (∀ text ∈ exclude, text ∈ more) → (∀ text ∈ more, ExcludePattern.ofText? text ≠ none) →
    ∃ found kept, files tree root exclude = .ok found ∧ files tree root more = .ok kept ∧ kept.Sublist found
  invalid : ∀ exclude, (∃ text ∈ exclude, ExcludePattern.ofText? text = none) →
    ∃ text ∈ exclude, ExcludePattern.ofText? text = none ∧ files tree root exclude = .error (.pattern ⟨text⟩)
  supported : ∀ options path, (session.call (analyzeTree tree root options)).1 ≠ .error (.unsupportedFile path)

/-- Of a directory all sources are listed that a walk over it yields and no pattern excludes, each once and in
ascending order. Patterns exclude one by one, so that it does not matter how they are divided and ordered, and more of
them leave a part of what was left. An invalid one makes the listing fail. What is listed is never of an unsupported type. -/
theorem listsSources {tree : FileTree} {root : Path} (wellNamed : tree.WellNamed)
    (directory : tree.find root = .ok .directory) (session : Session State) : session.ListsSources tree root := by
  have notFile := isFile_of_directory directory
  obtain ⟨sources, ordered, known, listed⟩ := exists_sources wellNamed directory
  constructor
  case lists =>
    intro exclude valid
    refine ⟨_, listed exclude valid, ordered.filter _, fun path => ?_⟩
    rw [remaining, List.mem_filter, known, Bool.not_eq_true', excluded_eq_false_iff]
    constructor
    · rintro ⟨⟨names, yields, source, rfl⟩, kept⟩
      rw [relativeTo_entryPath root (isName_of_yields wellNamed yields)] at kept
      exact ⟨names, yields, source, rfl, kept⟩
    · rintro ⟨names, yields, source, rfl, kept⟩
      rw [← relativeTo_entryPath root (isName_of_yields wellNamed yields)] at kept
      exact ⟨⟨names, yields, source, rfl⟩, kept⟩
  case concatenated =>
    intro first second valid
    have validFirst := fun text mem => valid text (List.mem_append_left second mem)
    have swapped : ∀ text ∈ second ++ first, ExcludePattern.ofText? text ≠ none :=
      fun text mem => valid text (List.mem_append.mpr (List.mem_append.mp mem).symm)
    refine ⟨_, listed first validFirst, ?_, ?_⟩
    · rw [listed _ valid, remaining_append]
    · rw [listed _ swapped, remaining_append, remaining_comm]
  case fewer =>
    intro exclude more covers valid
    exact ⟨_, _, listed exclude fun text mem => valid text (covers text mem), listed more valid,
      remaining_sublist root covers sources⟩
  case invalid =>
    intro exclude present
    obtain ⟨error, failed⟩ := (mapM_parse_eq_error_iff exclude).mpr present
    obtain ⟨text, mem, invalid, rfl⟩ := exists_of_mapM_parse_eq_error failed
    exact ⟨text, mem, invalid, by simp [files, notFile, failed]⟩
  case supported => exact call_analyzeTree_ne_unsupported notFile session

/-- A directory with a script whose extension is in upper case, a file that is ignored and one that is excluded. -/
theorem listsSources_upperCase :
    let tree := ((((FileTree.empty.putFile ["w", "b.bsl"] "// todo".toUTF8).putFile ["w", "a", "m.OS"] "".toUTF8).putFile
      ["w", "c.bsl"] "".toUTF8).putFile ["w", "d.bsl"] "".toUTF8).putFile ["w", ".ignore"] "d.bsl".toUTF8
    let root : Path := ⟨"/w"⟩
    let session : Session BuiltinRule :=
      ⟨root, ⟨"/w/c.json"⟩, Builtin.registry, .opened .standard, ⟨none, none⟩, none⟩
    tree.WellNamed ∧ tree.find root = .ok .directory ∧
      files tree root ["c.*"] = .ok [⟨"/w/a/m.OS"⟩, ⟨"/w/b.bsl"⟩] ∧
      files tree root ["c.*", "[", "***"] = .error (.pattern ⟨"["⟩) ∧ session.ListsSources tree root := by
  intro tree root session
  have wellNamed : tree.WellNamed := by decide +kernel
  have directory : tree.find ⟨"/w"⟩ = .ok .directory := by rfl
  have located : tree.locate root = .ok ["w"] := by decide +kernel
  have parsed : ["c.*"].mapM ExcludePattern.parse = .ok [⟨[.char 'c', .char '.', .run]⟩] := by decide +kernel
  have selected : (select root [⟨[.char 'c', .char '.', .run]⟩] (walk tree ["w"])).map (entryPath root) =
      [⟨"/w/a/m.OS"⟩, ⟨"/w/b.bsl"⟩] := by decide +kernel
  have listed := files_eq_mergeSort (isFile_of_directory directory) (by decide) located parsed
  rw [selected, List.mergeSort_of_pairwise (by decide +kernel)] at listed
  exact ⟨wellNamed, directory, listed, by decide +kernel, listsSources wellNamed directory session⟩

end Session

end BslLint
