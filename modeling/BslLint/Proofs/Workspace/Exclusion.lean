import BslLint.Proofs.Items
import BslLint.Proofs.Workspace.Discovery

/-! Further exclude patterns. They only take files away from those that are listed. -/

set_option autoImplicit false

namespace BslLint.Discovery

theorem mem_of_mem_select {root : Path} {patterns more : List ExcludePattern}
    (covers : ∀ pattern ∈ patterns, pattern ∈ more) {found : List Place} {names : Place}
    (mem : names ∈ select root more found) : names ∈ select root patterns found := by
  unfold select at mem ⊢
  rw [List.mem_filter] at mem ⊢
  obtain ⟨present, kept⟩ := mem
  refine ⟨present, ?_⟩
  simp only [Bool.and_eq_true, Bool.not_eq_true', List.any_eq_false] at kept ⊢
  exact ⟨kept.1, fun pattern known => kept.2 pattern (covers pattern known)⟩

/-- With further patterns, if they are valid, some of the same files are listed. -/
theorem files_of_more {tree : FileTree} {root : Path} {exclude more : List String} {paths : List Path}
    (listed : files tree root exclude = .ok paths) (covers : ∀ text ∈ exclude, text ∈ more)
    (valid : ∀ text ∈ more, text ∈ exclude ∨ ExcludePattern.ofText? text ≠ none) :
    ∃ fewer, files tree root more = .ok fewer ∧ ∀ path ∈ fewer, path ∈ paths := by
  unfold files at listed ⊢
  split at listed
  · rename_i file
    exact ⟨paths, by rw [if_pos file, listed], fun _ mem => mem⟩
  · rename_i directory
    rw [if_neg directory]
    cases parsed : exclude.mapM ExcludePattern.parse with
    | error error =>
      simp only [parsed] at listed
      cases listed
    | ok patterns =>
      simp only [parsed] at listed
      have known : ¬ ∃ text ∈ exclude, ExcludePattern.ofText? text = none := by
        rw [← mapM_parse_eq_error_iff, parsed]
        simp
      cases parsedMore : more.mapM ExcludePattern.parse with
      | error error =>
        obtain ⟨text, mem, invalid⟩ := (mapM_parse_eq_error_iff more).mp ⟨error, parsedMore⟩
        rcases valid text mem with old | new
        · exact absurd ⟨text, old, invalid⟩ known
        · exact absurd invalid new
      | ok morePatterns =>
        have coversPatterns : ∀ pattern ∈ patterns, pattern ∈ morePatterns := by
          intro pattern mem
          obtain ⟨text, present, own⟩ := (mem_iff_of_mapM_eq_ok parsed).mp mem
          exact (mem_iff_of_mapM_eq_ok parsedMore).mpr ⟨text, covers text present, own⟩
        dsimp only
        split at listed
        · rename_i input
          exact ⟨paths, by rw [if_pos input, listed], fun _ mem => mem⟩
        · rename_i notInput
          rw [if_neg notInput]
          split at listed
          · cases listed
          · refine ⟨_, rfl, fun path mem => ?_⟩
            cases listed
            obtain ⟨names, selected, rfl⟩ := List.mem_map.mp (List.mem_mergeSort.mp mem)
            exact List.mem_mergeSort.mpr (List.mem_map_of_mem (mem_of_mem_select coversPatterns selected))

end BslLint.Discovery
