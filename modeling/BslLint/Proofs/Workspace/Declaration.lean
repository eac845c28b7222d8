import BslLint.Proofs.Text.Casing
import BslLint.Proofs.Workspace.Metadata
import BslLint.Proofs.Xml.DocumentOrder

/-! What metadata has to be like to declare a compatibility mode. One file counts and in it one element, and nothing
else is looked at where these do not declare a mode. -/

set_option autoImplicit false

namespace BslLint

theorem fromUTF8?_eq_some_iff {content : ByteArray} {text : String} :
    String.fromUTF8? content = some text ↔ content = text.toUTF8 := by
  unfold String.fromUTF8?
  constructor
  · intro read
    split at read
    · cases read
      rfl
    · cases read
  · rintro rfl
    exact dif_pos text.isValidUTF8

namespace FileTree

variable {tree : FileTree} {path : Path}

theorem isFile_iff : tree.isFile path = true ↔ ∃ content, tree.find path = .ok (.file content) := by
  unfold isFile
  cases tree.find path with
  | error error => simp
  | ok node => cases node <;> simp

theorem readText_eq_ok_iff {text : String} :
    tree.readText path = .ok text ↔ tree.find path = .ok (.file text.toUTF8) := by
  unfold readText read
  cases tree.find path with
  | error error => simp [bind, Except.bind]
  | ok node =>
    cases node with
    | directory => simp [bind, Except.bind, throw, throwThe, MonadExceptOf.throw]
    | file content =>
      simp only [bind, Except.bind, pure, Except.pure, Except.ok.injEq, FileNode.file.injEq, ← fromUTF8?_eq_some_iff]
      cases String.fromUTF8? content <;> simp [throw, throwThe, MonadExceptOf.throw]

end FileTree

namespace Metadata

open Xml (Node)

-- The first of the metadata files that is a regular file, by its content.
inductive FirstFile (tree : FileTree) (base : Path) (content : ByteArray) : Prop where
  | file {earlier later : List String} {name : String} : fileNames = earlier ++ name :: later →
      tree.find (base / name) = .ok (.file content) →
      (∀ other ∈ earlier, ∀ content, tree.find (base / other) ≠ .ok (.file content)) → FirstFile tree base content

/-- A document in UTF-8 declares a mode in the first element of its name, which begins with the text of the mode. -/
inductive Declares (content : ByteArray) (mode : CompatibilityMode) : Prop where
  | element {text : String} {document : Node} {address : List Nat} {chars : List Char} {rest : List Node} :
      content = text.toUTF8 → Xml.ofText? text.toList = some document →
      Node.FirstAt (Text.InAnyCase · modeElement) document address (.text chars :: rest) →
      CompatibilityMode.parse (String.ofList chars) = .ok mode → Declares content mode

variable {tree : FileTree} {root : Path} {configurationRoot : Option Path} {content : ByteArray}
  {mode : CompatibilityMode}

theorem firstFile_iff {base : Path} : FirstFile tree base content ↔
    ∃ path, file? tree base = some path ∧ tree.find path = .ok (.file content) := by
  have absent (name : String) : (!tree.isFile (base / name)) = true ↔
      ∀ content, tree.find (base / name) ≠ .ok (.file content) := by
    rw [Bool.not_eq_true', Bool.eq_false_iff, Ne, FileTree.isFile_iff, not_exists]
  simp only [file?_eq, Option.map_eq_some_iff, List.find?_eq_some_iff_append, absent]
  constructor
  · rintro ⟨shape, found, none⟩
    exact ⟨_, ⟨_, ⟨FileTree.isFile_iff.mpr ⟨content, found⟩, _, _, shape, none⟩, rfl⟩, found⟩
  · rintro ⟨_, ⟨name, ⟨_, earlier, later, shape, none⟩, rfl⟩, found⟩
    exact .file shape found none

theorem FirstFile.unique {base : Path} {more : ByteArray} (first : FirstFile tree base content)
    (firstToo : FirstFile tree base more) : content = more := by
  obtain ⟨path, is, found⟩ := firstFile_iff.mp first
  obtain ⟨_, same, foundToo⟩ := firstFile_iff.mp firstToo
  cases is.symm.trans same
  cases found.symm.trans foundToo
  rfl

theorem modeOfText?_eq_some_iff {text : String} :
    modeOfText? text.toList = some mode ↔ Declares text.toUTF8 mode := by
  have parsed (chars : List Char) : CompatibilityMode.parse (String.ofList chars) = .ok mode ↔
      CompatibilityMode.ofChars? chars = some mode := by
    unfold CompatibilityMode.parse
    rw [String.toList_ofList]
    cases CompatibilityMode.ofChars? chars <;> simp
  unfold modeOfText?
  simp only [bind, Option.bind_eq_some_iff, Node.findElement?_eq_some_iff, Text.eqIgnoringAsciiCase_iff, ← parsed]
  constructor
  · rintro ⟨document, read, held, ⟨address, first⟩, chars, begins, written⟩
    obtain _ | ⟨_ | chars, rest⟩ := held <;> cases begins
    exact .element rfl read first written
  · rintro ⟨same, read, first, written⟩
    cases String.toByteArray_inj.mp same
    exact ⟨_, read, _, ⟨_, first⟩, _, rfl, written⟩

theorem mode?_eq_some_iff : mode? tree root configurationRoot = some mode ↔
    ∃ content, FirstFile tree (base root configurationRoot) content ∧ Declares content mode := by
  unfold mode?
  simp only [bind, Option.bind_eq_some_iff, firstFile_iff, modeOfText?_eq_some_iff]
  constructor
  · rintro ⟨path, is, text, read, declares⟩
    obtain ⟨_, found, same⟩ : ∃ own, tree.readText path = .ok own ∧ own = text := by
      cases outcome : tree.readText path <;> rw [outcome] at read <;> cases read
      exact ⟨_, rfl, rfl⟩
    subst same
    exact ⟨_, ⟨path, is, FileTree.readText_eq_ok_iff.mp found⟩, declares⟩
  · rintro ⟨content, ⟨path, is, found⟩, declares⟩
    obtain ⟨text, rfl⟩ : ∃ text : String, content = text.toUTF8 := by
      cases declares with
      | element same => exact ⟨_, same⟩
    refine ⟨path, is, text, ?_, declares⟩
    rw [FileTree.readText_eq_ok_iff.mpr found]
    rfl

-- How the mode of a workspace is decided.
structure DecidedByFirst (tree : FileTree) (root : Path) (configurationRoot : Option Path) : Prop where
  /-- The first file declares the mode. -/
  mode?_iff : ∀ mode, mode? tree root configurationRoot = some mode ↔
    ∃ content, FirstFile tree (base root configurationRoot) content ∧ Declares content mode
  /-- No file behind it is looked at when it declares none. -/
  unknown : ∀ content, FirstFile tree (base root configurationRoot) content → (∀ mode, ¬Declares content mode) →
    mode? tree root configurationRoot = none
  /-- Workspaces with the same first file, and workspaces with none, have the same mode. -/
  only : ∀ other otherRoot otherConfigurationRoot,
    (∀ content, FirstFile tree (base root configurationRoot) content ↔
      FirstFile other (base otherRoot otherConfigurationRoot) content) →
    mode? tree root configurationRoot = mode? other otherRoot otherConfigurationRoot

theorem mode_decided_by_first (tree : FileTree) (root : Path) (configurationRoot : Option Path) :
    DecidedByFirst tree root configurationRoot where
  mode?_iff _ := mode?_eq_some_iff
  unknown content first none := by
    rw [Option.eq_none_iff_forall_ne_some]
    intro mode found
    obtain ⟨own, firstToo, declares⟩ := mode?_eq_some_iff.mp found
    cases first.unique firstToo
    exact none mode declares
  only other otherRoot otherConfigurationRoot same := by
    refine Option.ext fun mode => ?_
    simp only [mode?_eq_some_iff, same]

end Metadata

end BslLint
