import BslLint.Proofs.Rule.Instances
import BslLint.Proofs.Sharing.Thread
import BslLint.Proofs.Workspace.Metadata

/-! What the calls of a shared session answer, whatever happens between their turns, as long as the metadata
and the sources stay as they are. -/

set_option autoImplicit false

namespace BslLint

def Detection.Holds (tree : FileTree) (root : Path) (detection : Detection) : Prop :=
  detection.mode = Metadata.mode? tree root detection.configurationRoot

theorem Detection.Holds.mode_eq {tree : FileTree} {root : Path} {detection : Detection} {snapshot : Snapshot}
    (holds : detection.Holds tree root) (same : detection.isFor snapshot = true) :
    detection.mode = Metadata.mode? tree root snapshot.configurationRoot := by
  have components : detection.configurationRoot.map Path.components =
      snapshot.configurationRoot.map Path.components := eq_of_beq same
  exact holds.trans (Metadata.mode?_eq_of_components tree root components)

/-- Trees with the same metadata and the same sources. -/
structure FileTree.Alike (root : Path) (tree other : FileTree) : Prop where
  mode : ∀ directory, Metadata.mode? other root directory = Metadata.mode? tree root directory
  files : ∀ path exclude, Discovery.files other path exclude = Discovery.files tree path exclude
  source : ∀ path exclude files, Discovery.files tree path exclude = .ok files →
    ∀ file ∈ files, other.readText file = tree.readText file

theorem FileTree.alike_refl (root : Path) (tree : FileTree) : tree.Alike root tree :=
  ⟨fun _ => rfl, fun _ _ => rfl, fun _ _ _ _ _ _ => rfl⟩

theorem FileTree.Alike.trans {root : Path} {first second third : FileTree} (left : first.Alike root second)
    (right : second.Alike root third) : first.Alike root third where
  mode directory := (right.mode directory).trans (left.mode directory)
  files path exclude := (right.files path exclude).trans (left.files path exclude)
  source path exclude files found file mem :=
    (right.source path exclude files ((left.files path exclude).trans found) file mem).trans
      (left.source path exclude files found file mem)

namespace Thread

/-- What others do between its turns leaves the files alike and detections that hold. Then the call ends after
so many turns, with an answer that fits the editions it has taken, and stores only detections that hold. -/
inductive Meets (tree : FileTree) (root : Path) {Answer : Type} (fits : List Edition → Answer → Prop) :
    Nat → List Edition → Thread Answer → Prop where
  | done {turns : Nat} {taken : List Edition} {answer : Answer} : fits taken answer →
      Meets tree root fits turns taken (.done answer)
  | look {turns : Nat} {taken : List Edition} {next : FileTree → Thread Answer} :
      (∀ other, tree.Alike root other → Meets tree root fits turns taken (next other)) →
      Meets tree root fits (turns + 1) taken (.look next)
  | take {turns : Nat} {taken : List Edition} {next : Edition → Thread Answer} :
      (∀ edition, Meets tree root fits turns (taken ++ [edition]) (next edition)) →
      Meets tree root fits (turns + 1) taken (.take next)
  | consult {turns : Nat} {taken : List Edition} {next : Detection → Thread Answer} :
      (∀ detection, detection.Holds tree root → Meets tree root fits turns taken (next detection)) →
      Meets tree root fits (turns + 1) taken (.consult next)
  | keep {turns : Nat} {taken : List Edition} {detection : Detection} {rest : Thread Answer} :
      detection.Holds tree root → Meets tree root fits turns taken rest →
      Meets tree root fits (turns + 1) taken (.keep detection rest)

section

variable {tree : FileTree} {root : Path} {Answer Other : Type} {fits : List Edition → Answer → Prop}
  {turns : Nat} {taken : List Edition} {thread : Thread Answer}

theorem Meets.more (meets : Meets tree root fits turns taken thread) (extra : Nat) :
    Meets tree root fits (extra + turns) taken thread := by
  induction meets with
  | done fit => exact .done fit
  | look _ ih => exact .look ih
  | take _ ih => exact .take ih
  | consult _ ih => exact .consult ih
  | keep holds _ ih => exact .keep holds ih

theorem Meets.imp (meets : Meets tree root fits turns taken thread) {weaker : List Edition → Answer → Prop}
    (implies : ∀ all answer, fits all answer → weaker all answer) :
    Meets tree root weaker turns taken thread := by
  induction meets with
  | done fit => exact .done (implies _ _ fit)
  | look _ ih => exact .look ih
  | take _ ih => exact .take ih
  | consult _ ih => exact .consult ih
  | keep holds _ ih => exact .keep holds ih

theorem Meets.bind (first : Meets tree root fits turns taken thread) {next : Answer → Thread Other}
    {later : List Edition → Other → Prop} {extra : Nat}
    (second : ∀ all answer, fits all answer → Meets tree root later extra all (next answer)) :
    Meets tree root later (extra + turns) taken (thread.bind next) := by
  induction first with
  | @done turns _ _ fit =>
    rw [Nat.add_comm]
    exact (second _ _ fit).more turns
  | look _ ih => exact .look ih
  | take _ ih => exact .take ih
  | consult _ ih => exact .consult ih
  | keep holds _ ih => exact .keep holds ih

-- A turn leaves one turn less, and a detection that holds.
theorem Meets.turn (meets : Meets tree root fits turns taken thread) {State : Type} {other : FileTree}
    {session after : Session State} {took : List Edition} {rest : Thread Answer}
    (files : tree.Alike root other) (detection : session.detection.Holds tree root)
    (turned : thread.turn other session = some (took, rest, after)) :
    ∃ fewer, turns = fewer + 1 ∧ Meets tree root fits fewer (taken ++ took) rest ∧
      after.detection.Holds tree root := by
  cases meets with
  | done => cases turned
  | look meets =>
    cases turned
    rw [List.append_nil]
    exact ⟨_, rfl, meets other files, detection⟩
  | take meets =>
    cases turned
    exact ⟨_, rfl, meets _, detection⟩
  | consult meets =>
    cases turned
    rw [List.append_nil]
    exact ⟨_, rfl, meets _ detection, detection⟩
  | keep holds meets =>
    cases turned
    rw [List.append_nil]
    exact ⟨_, rfl, meets, holds⟩

theorem Meets.fits_of_done {answer : Answer} (meets : Meets tree root fits turns taken (.done answer)) :
    fits taken answer := by
  cases meets with
  | done fit => exact fit

end

section

variable (tree : FileTree) (root : Path) (taken : List Edition)

/-- A cached mode is the mode for the snapshot that the caller holds, whoever has stored it. -/
theorem modeFor_meets (snapshot : Snapshot) :
    Meets tree root
      (fun all mode => all = taken ∧ mode = Metadata.mode? tree root snapshot.configurationRoot)
      3 taken (modeFor root snapshot) := by
  refine .consult fun detection holds => ?_
  split
  · rename_i same
    exact .done ⟨rfl, holds.mode_eq same⟩
  · refine .look fun other alike => .keep ?_ (.done ⟨rfl, ?_⟩)
    · exact alike.mode snapshot.configurationRoot
    · exact alike.mode snapshot.configurationRoot

end

section

variable {State : Type} [Rule State] (tree : FileTree) (session : Session State) (only : Option (List String))

-- All that a document is analyzed with comes from one edition.
theorem analyzeOnly_meets (path : Path) (content : String) (taken : List Edition) :
    Meets tree session.root
      (fun all answer => ∃ edition, all = taken ++ [edition] ∧
        answer = ((session.under tree edition.snapshot).call (Session.analyzeOnly tree only path content)).1)
      4 taken (analyzeOnly session.root session.registry only path content) := by
  refine .take fun edition => ?_
  cases supported : FileType.ofPath? path with
  | none =>
    refine .done ⟨edition, rfl, ?_⟩
    rw [Session.call_analyzeOnly_unsupported tree _ only path content supported]
  | some fileType =>
    refine (modeFor_meets tree session.root (taken ++ [edition]) edition.snapshot).bind ?_
    rintro all mode ⟨rfl, rfl⟩
    refine .done ⟨edition, rfl, ?_⟩
    rw [Session.call_analyzeOnly_under tree session only path content edition.snapshot supported]

/-- What a walk answers whose files are analyzed each under an edition of its own, in the order of the editions.
It fails at the first file that cannot be analyzed under any snapshot. -/
inductive Walked : Report → List Path → List Edition → Except SessionError Report → Prop where
  | done {report : Report} : Walked report [] [] (.ok report)
  | file {report : Report} {path : Path} {paths : List Path} {edition : Edition} {editions : List Edition}
      {violations : List Violation} {answer : Except SessionError Report} :
      ((session.under tree edition.snapshot).call (Session.analyzeFile tree path)).1 = .ok violations →
      Walked (report.push path (violations.filter fun violation => Registry.admits only violation.code))
        paths editions answer →
      Walked report (path :: paths) (edition :: editions) answer
  | failed {report : Report} {path : Path} {paths : List Path} {editions : List Edition} {error : SessionError} :
      editions.length ≤ 1 →
      (∀ snapshot, ((session.under tree snapshot).call (Session.analyzeFile tree path)).1 = .error error) →
      Walked report (path :: paths) editions (.error error)

theorem reportFiles_meets {paths : List Path}
    (same : ∀ file ∈ paths, ∀ other, tree.Alike session.root other → other.readText file = tree.readText file)
    (report : Report) (taken : List Edition) :
    Meets tree session.root
      (fun all answer => ∃ editions, all = taken ++ editions ∧
        Walked tree session only report paths editions answer)
      (5 * paths.length) taken (reportFiles session.root session.registry only report paths) := by
  induction paths generalizing report taken with
  | nil => exact .done ⟨[], (List.append_nil taken).symm, .done⟩
  | cons path paths ih =>
    have turns : 5 * (path :: paths).length = 5 * paths.length + 4 + 1 := by
      rw [List.length_cons]
      omega
    rw [turns]
    refine .look fun other alike => ?_
    rw [same path List.mem_cons_self other alike]
    cases read : tree.readText path with
    | error error =>
      refine .done ⟨[], (List.append_nil taken).symm, .failed (Nat.zero_le 1) fun snapshot => ?_⟩
      rw [Session.call_analyzeFile_unreadable tree _ read]
    | ok content =>
      refine (analyzeOnly_meets tree session only path content taken).bind ?_
      rintro all answer ⟨edition, rfl, rfl⟩
      cases supported : FileType.ofPath? path with
      | none =>
        rw [Session.call_analyzeOnly_unsupported tree _ only path content supported]
        refine .done ⟨[edition], rfl, .failed (Nat.le_refl 1) fun snapshot => ?_⟩
        rw [Session.call_analyzeFile tree _ read,
          Session.call_analyzeOnly_unsupported tree _ none path content supported]
      | some fileType =>
        have analyzed := Session.call_analyzeFile_under tree session edition.snapshot read supported
        rw [Session.call_analyzeOnly_under tree session only path content edition.snapshot supported,
          Registry.analyze_only]
        refine (ih (fun file mem => same file (List.mem_cons_of_mem path mem)) _ _).imp ?_
        rintro all answer ⟨editions, rfl, walked⟩
        exact ⟨edition :: editions, List.append_assoc _ _ _, .file analyzed walked⟩

def WalksTree (path : Path) (options : TreeOptions) (taken : List Edition)
    (answer : Except SessionError Report) : Prop :=
  match Discovery.files tree path options.exclude with
  | .error error => taken = [] ∧ answer = .error (.ofDiscovery error)
  | .ok files => Walked tree session options.rules .empty files taken answer

/-- How many turns a walk needs at most: one for the list of files, and five for each of them. -/
def walkTurns (path : Path) (options : TreeOptions) : Nat :=
  match Discovery.files tree path options.exclude with
  | .error _ => 1
  | .ok files => 5 * files.length + 1

theorem analyzeTree_meets (path : Path) (options : TreeOptions) :
    Meets tree session.root (WalksTree tree session path options) (walkTurns tree path options) []
      (analyzeTree session.root session.registry path options) := by
  unfold walkTurns WalksTree analyzeTree
  cases found : Discovery.files tree path options.exclude with
  | error error =>
    refine .look fun other alike => ?_
    rw [alike.files, found]
    exact .done ⟨rfl, rfl⟩
  | ok files =>
    refine .look fun other alike => ?_
    rw [alike.files, found]
    refine (reportFiles_meets tree session options.rules ?_ .empty []).imp ?_
    · exact fun file mem other alike => alike.source path options.exclude files found file mem
    · rintro all answer ⟨editions, rfl, walked⟩
      exact walked

end

end Thread

end BslLint
