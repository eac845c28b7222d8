import BslLint.Proofs.Workspace.Following
import BslLint.Workspace.Metadata
import Mathlib.Data.List.Find

/-! The compatibility mode depends on what a configuration root names, and not on how it is written. -/

set_option autoImplicit false

namespace BslLint

namespace Path

/-- Directories with the same components have the same paths below them. -/
theorem join_congr {left right : Path} (same : left.components = right.components) (root : Path) {path : Path}
    (isRelative : path.isAbsolute = false) :
    ((root.join left).join path).isAbsolute = ((root.join right).join path).isAbsolute ∧
      ((root.join left).join path).steps = ((root.join right).join path).steps := by
  have anchor := isAbsolute_eq_of_components same
  have steps := steps_eq_of_components same
  refine ⟨by simp only [isAbsolute_join, anchor], ?_⟩
  rw [steps_join _ isRelative, steps_join _ isRelative]
  congr 1
  cases leftRelative : left.isAbsolute with
  | true => rw [join, join, if_pos leftRelative, if_pos (anchor ▸ leftRelative), steps]
  | false => rw [steps_join _ leftRelative, steps_join _ (anchor ▸ leftRelative), steps]

end Path

namespace Metadata

theorem isRelative_of_mem_fileNames {name : String} (known : name ∈ fileNames) :
    (Path.mk name).isAbsolute = false := by
  have all : ∀ name ∈ fileNames, (Path.mk name).isAbsolute = false := by decide
  exact all name known

theorem endsInStep_of_mem_fileNames {name : String} (known : name ∈ fileNames) : (Path.mk name).EndsInStep := by
  simp only [fileNames, List.mem_cons, List.not_mem_nil, or_false] at known
  rcases known with rfl | rfl | rfl
  · exact ⟨[], "Configuration.xml", by decide, by decide⟩
  · exact ⟨["Configuration"], "Configuration.mdo", by decide, by decide⟩
  · exact ⟨["src", "Configuration"], "Configuration.mdo", by decide, by decide⟩

theorem file?_eq (tree : FileTree) (base : Path) :
    file? tree base = (fileNames.find? fun name => tree.isFile (base / name)).map (base / ·) :=
  List.find?_map

/-- If each of the metadata files is the same from both bases, then so is the first that is there. -/
theorem readText_file?_congr (tree : FileTree) {left right : Path}
    (same : ∀ name ∈ fileNames, tree.locate (left / name) = tree.locate (right / name)) :
    (file? tree left).map tree.readText = (file? tree right).map tree.readText := by
  have found : fileNames.find? (fun name => tree.isFile (left / name)) =
      fileNames.find? fun name => tree.isFile (right / name) :=
    List.find?_congr fun name known => tree.isFile_eq_of_locate (same name known)
  rw [file?_eq, file?_eq, ← found]
  cases first : fileNames.find? fun name => tree.isFile (left / name) with
  | none => rfl
  | some name => exact congrArg some (tree.readText_eq_of_locate (same name (List.mem_of_find?_eq_some first)))

theorem mode?_eq (tree : FileTree) (root : Path) (configurationRoot : Option Path) :
    mode? tree root configurationRoot =
      ((file? tree (base root configurationRoot)).map tree.readText).bind fun read =>
        read.toOption.bind fun text => modeOfText? text.toList := by
  unfold mode?
  cases file? tree (base root configurationRoot) <;> rfl

theorem mode?_eq_of_components (tree : FileTree) (root : Path) {left right : Option Path}
    (same : left.map Path.components = right.map Path.components) :
    mode? tree root left = mode? tree root right := by
  cases left with
  | none =>
    cases right with
    | none => rfl
    | some right => cases same
  | some left =>
    cases right with
    | none => cases same
    | some right =>
      rw [mode?_eq, mode?_eq, readText_file?_congr tree]
      intro name known
      have ends := endsInStep_of_mem_fileNames known
      obtain ⟨anchor, steps⟩ :=
        Path.join_congr (Option.some.inj same) root (isRelative_of_mem_fileNames known)
      exact tree.locate_eq_of_steps (ends.join _) (ends.join _) anchor steps

end Metadata

end BslLint
