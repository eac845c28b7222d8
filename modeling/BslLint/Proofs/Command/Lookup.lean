import BslLint.Command.Run
import BslLint.Proofs.Session.Opening
import BslLint.Proofs.Workspace.Following

/-! Whether a command reads the configuration file that it has looked up. -/

set_option autoImplicit false

namespace BslLint

def FileTree.LeadsHere (tree : FileTree) (path : Path) : Prop :=
  path.text = "" ∨ tree.locate path = .ok tree.here

theorem FileTree.locate_join_of_leadsHere {tree : FileTree} {directory path : Path}
    (leads : tree.LeadsHere directory) (isRelative : path.isAbsolute = false) (nonempty : path.text ≠ "") :
    tree.locate (directory.join path) = tree.locate path := by
  rcases leads with empty | located
  · rw [Path.join_of_text_empty empty]
  · have origin : tree.origin path = tree.here := if_neg (by simp [isRelative])
    rw [tree.locate_join isRelative located]
    simp only [locate, nonempty, if_false, origin]

/-- What a configuration file says depends on the text and on the name. -/
theorem Snapshot.load_congr {tree : FileTree} {left right : Path} (text : tree.readText left = tree.readText right)
    (name : left.fileName? = right.fileName?) : load tree left = load tree right := by
  have format : ConfigurationFormat.ofPath left = ConfigurationFormat.ofPath right := by
    unfold ConfigurationFormat.ofPath Path.hasExtension Path.extension?
    rw [name]
  rw [load, load, text, format]

namespace Command

namespace Lookup

variable {tree : FileTree} {environment : Environment} {root : Path} {demand : Option Path}

inductive Finds (tree : FileTree) (environment : Environment) (root : Path) : Option Path → Lookup → Prop where
  | demand (path : Path) : Finds tree environment root (some path) ⟨absolute tree path, .demand⟩
  | workspace {name : String} : name ∈ workspaceNames → tree.isFile (absolute tree root / name) = true →
      Finds tree environment root none ⟨absolute tree root / name, .workspace⟩
  | global {directory : Path} {name : String} : globalDirectory environment = some directory →
      name ∈ globalNames → tree.isFile (directory / name) = true →
      Finds tree environment root none ⟨directory / name, .global⟩
  | missing : Finds tree environment root none ⟨absolute tree root / Snapshot.fileName, .missing⟩

theorem find_finds (tree : FileTree) (environment : Environment) (root : Path) (demand : Option Path) :
    Finds tree environment root demand (find tree environment root demand) := by
  unfold find among
  cases demand with
  | some path => exact .demand path
  | none =>
    rw [Option.map_none]
    cases chosen : (candidates (absolute tree root) (globalDirectory environment)).find?
        fun candidate => tree.isFile candidate.path with
    | none => exact .missing
    | some found =>
      have there := List.find?_some chosen
      rcases List.mem_append.mp (List.mem_of_find?_eq_some chosen) with inWorkspace | inGlobal
      · obtain ⟨name, known, rfl⟩ := List.mem_map.mp inWorkspace
        exact .workspace known there
      · obtain ⟨directory, given, among⟩ := List.mem_flatMap.mp inGlobal
        obtain ⟨name, known, rfl⟩ := List.mem_map.mp among
        exact .global (Option.mem_toList.mp given) known there

theorem isAbsolute_absolute (tree : FileTree) (path : Path) : (absolute tree path).isAbsolute = true := by
  have anchored : (currentDirectory tree).isAbsolute = true := by
    simp [currentDirectory, Path.isAbsolute]
  rw [absolute, Path.isAbsolute_join, anchored, Bool.or_true]

theorem isAbsolute_below {directory : Path} (anchored : directory.isAbsolute = true) (name : String) :
    (directory / name).isAbsolute = true :=
  (Path.isAbsolute_join directory ⟨name⟩).trans (by rw [anchored, Bool.or_true])

theorem isAbsolute_global {name : String} (known : name ∈ globalNames) (directory : Path) :
    (directory / name).isAbsolute = directory.isAbsolute := by
  have isRelative : ∀ name ∈ globalNames, (Path.mk name).isAbsolute = false := by decide
  exact (Path.isAbsolute_join directory ⟨name⟩).trans (by rw [isRelative name known, Bool.false_or])

theorem endsInStep_global {name : String} (known : name ∈ globalNames) (directory : Path) :
    (directory / name).EndsInStep := by
  have step : ∀ name ∈ globalNames, (Path.mk name).segments = [name] ∧ (Path.component? name).isSome = true := by
    decide
  obtain ⟨single, named⟩ := step name known
  exact Path.EndsInStep.join ⟨[], name, single, named⟩ directory

variable {found : Lookup}

-- Only a relative global directory makes a lookup relative.
theorem Finds.isAbsolute_iff (finds : Finds tree environment root demand found) :
    found.path.isAbsolute = true ↔ (found.origin = .global →
      ∃ directory, globalDirectory environment = some directory ∧ directory.isAbsolute = true) := by
  have always {path : Path} {origin : Origin} (anchored : path.isAbsolute = true) (other : origin ≠ .global) :
      path.isAbsolute = true ↔ (origin = .global →
        ∃ directory, globalDirectory environment = some directory ∧ directory.isAbsolute = true) :=
    iff_of_true anchored fun same => absurd same other
  cases finds with
  | demand path => exact always (isAbsolute_absolute tree path) nofun
  | workspace => exact always (isAbsolute_below (isAbsolute_absolute tree root) _) nofun
  | @global directory name given known there =>
    rw [isAbsolute_global known]
    constructor
    · intro anchored _
      exact ⟨directory, given, anchored⟩
    · intro absolute
      obtain ⟨other, same, anchored⟩ := absolute rfl
      cases given.symm.trans same
      exact anchored
  | missing => exact always (isAbsolute_below (isAbsolute_absolute tree root) _) nofun

theorem Finds.endsInStep (finds : Finds tree environment root demand found)
    (isRelative : found.path.isAbsolute = false) : found.path.EndsInStep := by
  by_cases global : found.origin = .global
  · cases finds with
    | @global directory name _ known _ => exact endsInStep_global known directory
    | _ => cases global
  · have anchored := finds.isAbsolute_iff.mpr fun same => absurd same global
    rw [isRelative] at anchored
    cases anchored

/-- What is found in the workspace or in the global directory is a file. -/
theorem Finds.isFile (finds : Finds tree environment root demand found)
    (there : found.origin = .workspace ∨ found.origin = .global) : tree.isFile found.path = true := by
  cases finds with
  | workspace _ file => exact file
  | global _ _ file => exact file
  | demand => simp at there
  | missing => simp at there

/-- The session's path says what the lookup's path says, if that is absolute or the workspace is the current
directory. -/
theorem Finds.load_join (finds : Finds tree environment root demand found) {workspace : Path}
    (anchored : found.path.isAbsolute = true ∨ tree.LeadsHere workspace) :
    Snapshot.load tree (workspace.join found.path) = Snapshot.load tree found.path := by
  cases isRelative : found.path.isAbsolute with
  | true => rw [Path.join, if_pos isRelative]
  | false =>
    have ends := finds.endsInStep isRelative
    have leads := anchored.resolve_left (by simp [isRelative])
    apply Snapshot.load_congr
    · exact tree.readText_eq_of_locate (FileTree.locate_join_of_leadsHere leads isRelative ends.text_ne_empty)
    · exact Path.fileName?_eq_of_steps ends.steps_ne_nil (Path.steps_join workspace isRelative)

end Lookup

theorem openSession_eq (tree : FileTree) (environment : Environment) (demand : Option Path) (path : Path) :
    openSession tree environment demand path =
      Session.openAt tree (workspaceRoot tree path)
        (some (Lookup.find tree environment (workspaceRoot tree path) demand).path) Builtin.registry := rfl

/-- A command reads the configuration file that it has looked up, and nothing else, if the path of that file is
absolute. It is, unless the file was found in a global directory that is written as a relative path: that path
is looked up from the current directory and read from the workspace, which are the same if the workspace is the
current directory. -/
theorem openSession_reads_found (tree : FileTree) (environment : Environment) (demand : Option Path)
    (path : Path) :
    let root := workspaceRoot tree path
    let found := Lookup.find tree environment root demand
    (found.path.isAbsolute = true ↔ (found.origin = .global →
      ∃ directory, Lookup.globalDirectory environment = some directory ∧ directory.isAbsolute = true)) ∧
    (∀ session, openSession tree environment demand path = .ok session →
      session.configurationPath = root.join found.path ∧
        (found.path.isAbsolute = true → session.configurationPath = found.path)) ∧
    (found.path.isAbsolute = true ∨ tree.LeadsHere root →
      (∀ snapshot, (∃ session, openSession tree environment demand path = .ok session ∧
          session.snapshot = snapshot) ↔ Snapshot.Loads tree found.path snapshot) ∧
      (found.origin = .workspace ∨ found.origin = .global →
        ∀ session, openSession tree environment demand path = .ok session →
          ∃ text, tree.readText found.path = .ok text ∧
            Snapshot.parse (.ofPath found.path) text = .ok session.snapshot)) := by
  intro root found
  have finds := Lookup.find_finds tree environment root demand
  rw [openSession_eq]
  refine ⟨finds.isAbsolute_iff, ?_, ?_⟩
  · intro session opened
    obtain ⟨snapshot, _, rfl⟩ := Session.openAt_eq_ok_iff.mp opened
    have place : Session.configurationPathFor root (some found.path) = root.join found.path := rfl
    exact ⟨place, fun anchored => place.trans (if_pos anchored)⟩
  · intro anchored
    have same := finds.load_join anchored
    have opens (snapshot : Snapshot) : (∃ session,
        Session.openAt tree root (some found.path) Builtin.registry = .ok session ∧
          session.snapshot = snapshot) ↔ Snapshot.Loads tree found.path snapshot := by
      rw [Session.openAt_iff, Snapshot.loads_iff, Snapshot.loads_iff, ← same]
      rfl
    refine ⟨opens, ?_⟩
    intro there session opened
    have loads := (opens session.snapshot).mp ⟨session, opened, rfl⟩
    generalize session.snapshot = snapshot at loads ⊢
    cases loads with
    | missing absent => exact absurd absent (tree.readText_ne_notFound (finds.isFile there))
    | parsed read parsed => exact ⟨_, read, parsed⟩

-- A workspace below the current directory, and a global directory beside it.

namespace Beside

def tree : FileTree :=
  { (FileTree.empty.putFile ["ws", "conf", "config.json"] "[\"en\"]".toUTF8).makeDirectories ["ws", "sub"] with
    here := ["ws"] }

def environment (directory : String) : Environment := ⟨none, some directory, none⟩

def workspace : Path := ⟨"sub"⟩

theorem workspaceRoot_eq : workspaceRoot tree workspace = workspace := by decide +kernel

theorem find_eq {directory : String} (given : directory = "/ws/conf" ∨ directory = "conf") :
    Lookup.find tree (environment directory) workspace none = ⟨⟨directory ++ "/config.json"⟩, .global⟩ ∧
      tree.isFile ⟨directory ++ "/config.json"⟩ = true ∧
      Snapshot.load tree ⟨directory ++ "/config.json"⟩ = .ok (.withLanguage .standard .en) := by
  rcases given with rfl | rfl <;> decide +kernel

end Beside

theorem openSession_reads_found_global :
    let found := Lookup.find Beside.tree (Beside.environment "/ws/conf")
      (workspaceRoot Beside.tree Beside.workspace) none
    found.origin = .global ∧ (found.path.isAbsolute = true ∨
        Beside.tree.LeadsHere (workspaceRoot Beside.tree Beside.workspace)) ∧
      ∃ session, openSession Beside.tree (Beside.environment "/ws/conf") none Beside.workspace = .ok session ∧
        session.snapshot = .withLanguage .standard .en ∧
        ∃ text, Beside.tree.readText found.path = .ok text ∧
          Snapshot.parse (.ofPath found.path) text = .ok session.snapshot := by
  intro found
  obtain ⟨anchored_iff, _, reads⟩ :=
    openSession_reads_found Beside.tree (Beside.environment "/ws/conf") none Beside.workspace
  obtain ⟨found_eq, _, loaded⟩ := Beside.find_eq (.inl rfl)
  rw [← Beside.workspaceRoot_eq] at found_eq
  have origin : found.origin = .global := congrArg Lookup.origin found_eq
  have path : found.path = ⟨"/ws/conf/config.json"⟩ := congrArg Lookup.path found_eq
  have anchored : found.path.isAbsolute = true := anchored_iff.mpr fun _ => ⟨⟨"/ws/conf"⟩, rfl, by decide⟩
  obtain ⟨opens, parses⟩ := reads (.inl anchored)
  obtain ⟨session, opened, same⟩ := (opens _).mpr (Snapshot.loads_iff.mpr (path ▸ loaded))
  exact ⟨origin, .inl anchored, session, opened, same, parses (.inr origin) session opened⟩

/-- A file that is found in a relative global directory, and a session that does not read it. -/
theorem relative_global_unread :
    let found := Lookup.find Beside.tree (Beside.environment "conf")
      (workspaceRoot Beside.tree Beside.workspace) none
    found.path.isAbsolute = false ∧ Beside.tree.isFile found.path = true ∧
      ∃ session, openSession Beside.tree (Beside.environment "conf") none Beside.workspace = .ok session ∧
        ¬ Snapshot.Loads Beside.tree found.path session.snapshot := by
  intro found
  obtain ⟨found_eq, file, loaded⟩ := Beside.find_eq (.inr rfl)
  rw [← Beside.workspaceRoot_eq] at found_eq
  have path : found.path = ⟨"conf/config.json"⟩ := congrArg Lookup.path found_eq
  have missing : Snapshot.Loads Beside.tree
      (Session.configurationPathFor (workspaceRoot Beside.tree Beside.workspace) (some found.path)) .standard := by
    rw [Beside.workspaceRoot_eq, path]
    exact .missing (by decide +kernel)
  obtain ⟨session, opened, same⟩ := Session.openAt_of_loads missing Builtin.registry
  refine ⟨by rw [path]; decide, path ▸ file, session, opened, ?_⟩
  rw [same, Snapshot.loads_iff, path]
  intro other
  cases loaded.symm.trans other

end Command

end BslLint
