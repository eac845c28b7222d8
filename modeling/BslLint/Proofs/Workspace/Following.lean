import BslLint.Proofs.Text.Split
import BslLint.Workspace.FileTree
import Mathlib.Data.List.Basic

/-! Where paths lead. Of its segments only names and steps to the parent move a path on; the others ask for a
directory, as any segment does that follows. Paths with the same components lead to the same place. -/

set_option autoImplicit false

namespace BslLint

namespace Path

def Component.text : Component → String
  | .root => ""
  | .here => "."
  | .parent => ".."
  | .name text => text

def Component.isStep : Component → Bool
  | .root | .here => false
  | .parent | .name _ => true

theorem component?_eq_none_iff (segment : String) :
    component? segment = none ↔ segment = "" ∨ segment = "." := by
  unfold component?
  split
  · simp [*]
  · split <;> simp [*]

theorem component?_eq_some {segment : String} {component : Component}
    (named : component? segment = some component) : component.text = segment ∧ component.isStep = true := by
  unfold component? at named
  split at named
  · cases named
  · split at named
    · cases named
      exact ⟨Eq.symm ‹_›, rfl⟩
    · cases named
      exact ⟨rfl, rfl⟩

def steps (path : Path) : List Component :=
  path.segments.filterMap component?

def EndsInStep (path : Path) : Prop :=
  ∃ before last, path.segments = before ++ [last] ∧ (component? last).isSome = true

theorem isStep_of_mem_steps {path : Path} {component : Component} (mem : component ∈ path.steps) :
    component.isStep = true := by
  obtain ⟨segment, _, named⟩ := List.mem_filterMap.mp mem
  exact (component?_eq_some named).2

theorem components_eq (path : Path) :
    path.components = (if path.isAbsolute then [.root]
      else if path.segments.head? = some "." then [.here] else []) ++ path.steps := by
  unfold components
  split
  · rfl
  · split <;> rfl

theorem steps_eq_filter (path : Path) : path.steps = path.components.filter Component.isStep := by
  rw [components_eq, List.filter_append, List.filter_eq_self.mpr fun _ => isStep_of_mem_steps]
  split
  · rfl
  · split <;> rfl

theorem root_mem_components_iff (path : Path) : .root ∈ path.components ↔ path.isAbsolute = true := by
  have other : Component.root ∉ path.steps := fun mem => nomatch isStep_of_mem_steps mem
  rw [components_eq, List.mem_append, or_iff_left other]
  split
  · simp [*]
  · split <;> simp [*]

theorem isAbsolute_eq_of_components {left right : Path} (same : left.components = right.components) :
    left.isAbsolute = right.isAbsolute := by
  rw [Bool.eq_iff_iff, ← root_mem_components_iff, ← root_mem_components_iff, same]

theorem steps_eq_of_components {left right : Path} (same : left.components = right.components) :
    left.steps = right.steps := by
  rw [steps_eq_filter, steps_eq_filter, same]

theorem segments_append_slash (before after : String) :
    (Path.mk (before ++ "/" ++ after)).segments = (Path.mk before).segments ++ (Path.mk after).segments := by
  simp only [segments, String.toList_append, List.append_assoc]
  rw [show "/".toList = ['/'] from rfl, List.singleton_append, Text.splitOn_append, List.map_append]

theorem segments_ne_nil (path : Path) : path.segments ≠ [] := by
  simp [segments, Text.splitOn_ne_nil]

theorem segments_empty : segments ⟨""⟩ = [""] := by decide

theorem segments_of_slash {path : Path} {start : String} (slash : path.text = start ++ "/") :
    path.segments = (mk start).segments ++ [""] := by
  have ending := segments_append_slash start ""
  rwa [String.append_empty, ← slash, segments_empty] at ending

theorem join_of_text_empty {directory : Path} (empty : directory.text = "") (path : Path) :
    directory.join path = path := by
  simp [join, empty]

-- One slash parts a directory from a path below it.
theorem join_of_isRelative {directory path : Path} (nonempty : directory.text ≠ "")
    (isRelative : path.isAbsolute = false) :
    ∃ start, directory.join path = ⟨start ++ "/" ++ path.text⟩ ∧
      (directory.text = start ∨ directory.text = start ++ "/") := by
  unfold join
  simp only [isRelative, Bool.false_eq_true, if_false]
  by_cases slash : directory.text.toList.getLast? = some '/'
  · obtain ⟨start, split⟩ := List.getLast?_eq_some_iff.mp slash
    have text : directory.text = String.ofList start ++ "/" := by
      rw [← String.toList_inj, split, String.toList_append, String.toList_ofList]
      rfl
    refine ⟨String.ofList start, ?_, .inr text⟩
    rw [if_pos (.inr slash), text]
  · exact ⟨directory.text, if_neg (not_or.mpr ⟨nonempty, slash⟩), .inl rfl⟩

theorem segments_join (directory : Path) {path : Path} (isRelative : path.isAbsolute = false) :
    ∃ before, (directory.join path).segments = before ++ path.segments ∧
      before.filterMap component? = directory.steps := by
  by_cases empty : directory.text = ""
  · refine ⟨[], by rw [join_of_text_empty empty, List.nil_append], ?_⟩
    rw [steps, show directory = ⟨""⟩ from congrArg mk empty, segments_empty]
    rfl
  · obtain ⟨start, joined, text⟩ := join_of_isRelative empty isRelative
    refine ⟨(mk start).segments, by rw [joined, segments_append_slash], ?_⟩
    rcases text with same | slash
    · rw [steps, ← same]
    · rw [steps, segments_of_slash slash, List.filterMap_append]
      exact (List.append_nil _).symm

theorem steps_join (directory : Path) {path : Path} (isRelative : path.isAbsolute = false) :
    (directory.join path).steps = directory.steps ++ path.steps := by
  obtain ⟨before, split, same⟩ := segments_join directory isRelative
  rw [steps, split, List.filterMap_append, same]
  rfl

theorem EndsInStep.join {path : Path} (ends : path.EndsInStep) (directory : Path) :
    (directory.join path).EndsInStep := by
  cases isRelative : path.isAbsolute with
  | true =>
    rw [Path.join, if_pos isRelative]
    exact ends
  | false =>
    obtain ⟨before, last, split, named⟩ := ends
    obtain ⟨above, joined, _⟩ := segments_join directory isRelative
    exact ⟨above ++ before, last, by rw [joined, split, List.append_assoc], named⟩

theorem EndsInStep.steps_ne_nil {path : Path} (ends : path.EndsInStep) : path.steps ≠ [] := by
  obtain ⟨before, last, split, named⟩ := ends
  obtain ⟨component, found⟩ := Option.isSome_iff_exists.mp named
  rw [steps, split, List.filterMap_append]
  simp [found]

theorem EndsInStep.text_ne_empty {path : Path} (ends : path.EndsInStep) : path.text ≠ "" := by
  intro empty
  have same : path = ⟨""⟩ := congrArg mk empty
  exact ends.steps_ne_nil (same ▸ by decide)

/-- Which characters a path has, but for slashes and dots, its steps say. -/
theorem mem_text_iff {char : Char} (noSlash : char ≠ '/') (noDot : char ≠ '.') (path : Path) :
    char ∈ path.text.toList ↔ ∃ step ∈ path.steps, char ∈ step.text.toList := by
  rw [← Text.exists_mem_splitOn_iff noSlash]
  constructor
  · rintro ⟨piece, split, mem⟩
    cases found : component? (String.ofList piece) with
    | none =>
      -- A segment that names nothing is empty or a dot.
      rcases (component?_eq_none_iff _).mp found with empty | dot
      · rw [String.ofList_eq_empty_iff.mp empty] at mem
        cases mem
      · rw [show piece = ['.'] from String.ofList_injective dot] at mem
        exact absurd (List.mem_singleton.mp mem) noDot
    | some component =>
      refine ⟨component, List.mem_filterMap.mpr ⟨_, List.mem_map_of_mem split, found⟩, ?_⟩
      rw [(component?_eq_some found).1, String.toList_ofList]
      exact mem
  · rintro ⟨component, step, mem⟩
    obtain ⟨segment, split, found⟩ := List.mem_filterMap.mp step
    obtain ⟨piece, present, rfl⟩ := List.mem_map.mp split
    rw [(component?_eq_some found).1, String.toList_ofList] at mem
    exact ⟨piece, present, mem⟩

theorem isAbsolute_join (directory path : Path) :
    (directory.join path).isAbsolute = (path.isAbsolute || directory.isAbsolute) := by
  cases isRelative : path.isAbsolute with
  | true => rw [join, if_pos isRelative, isRelative, Bool.true_or]
  | false =>
    rw [Bool.false_or]
    unfold join
    simp only [isRelative, Bool.false_eq_true, if_false]
    cases chars : directory.text.toList with
    | nil =>
      have empty : directory.text = "" := String.toList_eq_nil_iff.mp chars
      simpa [isAbsolute, empty] using isRelative
    | cons char rest =>
      have text : directory.text ≠ "" := fun empty => by simp [empty] at chars
      simp only [text, false_or]
      split <;> simp [isAbsolute, chars]

theorem fileName?_eq_of_steps {left right : Path} {before : List Component} (more : right.steps ≠ [])
    (same : left.steps = before ++ right.steps) : left.fileName? = right.fileName? := by
  have last (path : Path) (some : path.steps ≠ []) : path.components.getLast? = path.steps.getLast? := by
    rw [components_eq, List.getLast?_append_of_ne_nil _ some]
  have all : left.steps ≠ [] := by
    rw [same]
    exact List.append_ne_nil_of_right_ne_nil before more
  rw [fileName?, fileName?, last left all, last right more, same, List.getLast?_append_of_ne_nil _ more]

end Path

namespace FileTree

variable (tree : FileTree)

/-- A segment that names nothing asks for a directory, and so does the segment after it. -/
theorem follow_cons_of_none {segment : String} (silent : Path.component? segment = none) (place : Place)
    {rest : List String} (more : rest ≠ []) :
    tree.follow place (segment :: rest) = tree.follow place rest := by
  have skipped := (Path.component?_eq_none_iff segment).mp silent
  cases rest with
  | nil => exact absurd rfl more
  | cons next rest =>
    unfold follow
    rw [List.foldlM_cons, List.foldlM_cons]
    cases found : tree.node? place with
    | none => simp [enter, found, bind, Except.bind]
    | some node =>
      cases node with
      | directory => simp [enter, found, skipped, bind, Except.bind]
      | file content => simp [enter, found, bind, Except.bind]

theorem follow_filterMap (place : Place) (before : List String) {last : String}
    (named : (Path.component? last).isSome = true) :
    tree.follow place (before ++ [last]) =
      tree.follow place (((before ++ [last]).filterMap Path.component?).map Path.Component.text) := by
  induction before generalizing place with
  | nil =>
    obtain ⟨component, found⟩ := Option.isSome_iff_exists.mp named
    simp [found, (Path.component?_eq_some found).1]
  | cons segment before ih =>
    rw [List.cons_append]
    cases found : Path.component? segment with
    | none => rw [follow_cons_of_none tree found place (by simp), ih, List.filterMap_cons_none found]
    | some component =>
      rw [List.filterMap_cons_some found, List.map_cons, (Path.component?_eq_some found).1]
      unfold follow at ih ⊢
      rw [List.foldlM_cons, List.foldlM_cons]
      exact congrArg _ (funext fun next => ih next)

-- A path that ends in a step leads where its steps lead.
theorem follow_segments {path : Path} (ends : path.EndsInStep) (place : Place) :
    tree.follow place path.segments = tree.follow place (path.steps.map Path.Component.text) := by
  obtain ⟨before, last, split, named⟩ := ends
  rw [Path.steps, split]
  exact tree.follow_filterMap place before named

theorem locate_eq_of_steps {left right : Path} (leftEnds : left.EndsInStep) (rightEnds : right.EndsInStep)
    (anchor : left.isAbsolute = right.isAbsolute) (same : left.steps = right.steps) :
    tree.locate left = tree.locate right := by
  have nul : left.text.toList.contains '\x00' = right.text.toList.contains '\x00' := by
    rw [Bool.eq_iff_iff, List.contains_iff_mem, List.contains_iff_mem,
      Path.mem_text_iff (by decide) (by decide), Path.mem_text_iff (by decide) (by decide), same]
  unfold locate
  rw [nul, if_neg leftEnds.text_ne_empty, if_neg rightEnds.text_ne_empty, follow_segments tree leftEnds,
    follow_segments tree rightEnds, same, origin, origin, anchor]

theorem follow_append (place : Place) (before after : List String) :
    tree.follow place (before ++ after) = tree.follow place before >>= fun middle => tree.follow middle after :=
  List.foldlM_append

/-- Below a place that a directory leads to, a relative path is followed from there. -/
theorem locate_join {directory path : Path} {place : Place} (isRelative : path.isAbsolute = false)
    (located : tree.locate directory = .ok place) :
    tree.locate (directory.join path) = if path.text.toList.contains '\x00' then .error .invalidName
      else tree.follow place path.segments := by
  unfold locate at located
  split at located
  · cases located
  rename_i clean
  split at located
  · cases located
  rename_i nonempty
  obtain ⟨start, joined, text⟩ := Path.join_of_isRelative nonempty isRelative
  have anchor : tree.origin (directory.join path) = tree.origin directory := by
    rw [origin, origin, Path.isAbsolute_join, isRelative, Bool.false_or]
  have leads : tree.follow (tree.origin directory) (directory.join path).segments =
      tree.follow place path.segments := by
    have through : tree.follow (tree.origin directory) (directory.segments ++ path.segments) =
        tree.follow place path.segments := by
      rw [follow_append, located]
      rfl
    rw [← through, joined, Path.segments_append_slash]
    rcases text with same | slash
    · rw [← same]
    · -- The slash at the end of the directory only asks for a directory.
      rw [Path.segments_of_slash slash, List.append_assoc, follow_append, follow_append]
      exact congrArg _ (funext fun middle =>
        (follow_cons_of_none tree (by decide) middle path.segments_ne_nil).symm)
  have nul : (directory.join path).text.toList.contains '\x00' = path.text.toList.contains '\x00' := by
    have unmarked : '\x00' ∉ start.toList := by
      rcases text with same | slash
      · simpa [same] using clean
      · simpa [slash] using clean
    simp [joined, unmarked]
  have parted : (directory.join path).text ≠ "" := by simp [joined]
  rw [locate, nul, if_neg parted, anchor, leads]

theorem find_eq_of_locate {left right : Path} (same : tree.locate left = tree.locate right) :
    tree.find left = tree.find right := by
  rw [find, find, same]

theorem isFile_eq_of_locate {left right : Path} (same : tree.locate left = tree.locate right) :
    tree.isFile left = tree.isFile right := by
  rw [isFile, isFile, tree.find_eq_of_locate same]

theorem readText_eq_of_locate {left right : Path} (same : tree.locate left = tree.locate right) :
    tree.readText left = tree.readText right := by
  rw [readText, readText, read, read, tree.find_eq_of_locate same]

theorem readText_ne_notFound {path : Path} (file : tree.isFile path = true) :
    tree.readText path ≠ .error .notFound := by
  unfold isFile at file
  split at file
  · rename_i content found
    simp only [readText, read, found, bind, Except.bind, pure, Except.pure]
    split <;> exact nofun
  · cases file

end FileTree

end BslLint
