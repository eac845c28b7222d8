import BslLint.Check.Registry
import BslLint.Proofs.Report.Pushes
import BslLint.Proofs.Session.Analysis
import BslLint.Proofs.Workspace.Discovery
import Mathlib.Data.List.Forall2

/-! A session that analyzes a directory reports what it reports on the files one by one. Each file with violations
stands once in the report, in the order of the paths, and has its violations in the order of ranges and codes. -/

set_option autoImplicit false

namespace BslLint

theorem Detection.isFor_renew (tree : FileTree) (root : Path) (snapshot : Snapshot) (detection : Detection) :
    (detection.renew tree root snapshot).isFor snapshot = true := by
  unfold renew
  split
  · assumption
  · exact BEq.rfl

namespace Session

variable {State : Type} (session : Session State) (tree : FileTree)

theorem renewed_renewed : (session.renewed tree).renewed tree = session.renewed tree := by
  have current := Detection.isFor_renew tree session.root session.snapshot session.detection
  have kept : (session.renewed tree).detection.renew tree session.root session.snapshot =
      (session.renewed tree).detection := if_pos current
  conv_lhs => unfold renewed
  exact congrArg (fun detection => { session with detection }) kept

theorem contextOf_renewed (fileType : FileType) :
    (session.renewed tree).contextOf tree fileType = session.contextOf tree fileType := by
  rw [contextOf, renewed_renewed]
  rfl

variable [Rule State] {session tree} {path : Path}

/-- What a session has found out about the compatibility mode makes no difference to what it answers. -/
theorem call_analyzeFile_renewed :
    ((session.renewed tree).call (analyzeFile tree path)).1 = (session.call (analyzeFile tree path)).1 := by
  cases read : tree.readText path with
  | error error => rw [call_analyzeFile_unreadable tree _ read, call_analyzeFile_unreadable tree _ read]
  | ok content =>
    rw [call_analyzeFile tree _ read, call_analyzeFile tree _ read]
    cases supported : FileType.ofPath? path with
    | none =>
      rw [call_analyzeOnly_unsupported _ _ _ _ _ supported, call_analyzeOnly_unsupported _ _ _ _ _ supported]
    | some fileType =>
      rw [call_analyzeOnly_supported _ _ _ _ _ supported, call_analyzeOnly_supported _ _ _ _ _ supported,
        contextOf_renewed]
      rfl

theorem call_analyzeFile_eq_of_ok {violations : List Violation}
    (answered : (session.call (analyzeFile tree path)).1 = .ok violations) :
    session.call (analyzeFile tree path) = (.ok violations, session.renewed tree) := by
  cases read : tree.readText path with
  | error error =>
    rw [call_analyzeFile_unreadable tree _ read] at answered
    cases answered
  | ok content =>
    rw [call_analyzeFile tree _ read] at answered ⊢
    cases supported : FileType.ofPath? path with
    | none =>
      rw [call_analyzeOnly_unsupported _ _ _ _ _ supported] at answered
      cases answered
    | some fileType =>
      rw [call_analyzeOnly_supported _ _ _ _ _ supported] at answered ⊢
      rw [← answered]

/-- A file of a known type is analyzed unless it cannot be read as text. -/
theorem call_analyzeFile_eq_error_iff {fileType : FileType} (supported : FileType.ofPath? path = some fileType) :
    (∃ error, (session.call (analyzeFile tree path)).1 = .error error) ↔
      ∀ content, tree.readText path ≠ .ok content := by
  cases read : tree.readText path with
  | error error => simp [call_analyzeFile_unreadable tree _ read]
  | ok content =>
    rw [call_analyzeFile tree _ read, call_analyzeOnly_supported _ _ _ _ _ supported]
    simp

theorem reportFiles_cons (report : Report) (paths : List Path) :
    (reportFiles tree none report (path :: paths) : SessionCall State Report) =
      analyzeFile tree path >>= fun violations => reportFiles tree none (report.push path violations) paths := by
  rw [analyzeFile, bind_assoc]
  rfl

theorem call_reportFiles_of_answers {paths : List Path} {answers : List (List Violation)}
    (answered : List.Forall₂ (fun path violations => (session.call (analyzeFile tree path)).1 = .ok violations)
      paths answers) (report : Report) :
    (session.call (reportFiles tree none report paths)).1 = .ok (report.pushAll (paths.zip answers)) := by
  induction paths generalizing session answers report with
  | nil =>
    cases answered
    rfl
  | cons path paths ih =>
    obtain ⟨violations, others, first, rest, rfl⟩ := List.forall₂_cons_left_iff.mp answered
    rw [reportFiles_cons, call_bind_ok (call_analyzeFile_eq_of_ok first)]
    -- The rest is answered by a session that has looked at the mode, which changes no answer.
    refine ih ?_ _
    simpa only [call_analyzeFile_renewed] using rest

theorem call_reportFiles_of_error {paths : List Path}
    (failed : ∃ path ∈ paths, ∃ error, (session.call (analyzeFile tree path)).1 = .error error) (report : Report) :
    ∃ error, (session.call (reportFiles tree none report paths)).1 = .error error := by
  induction paths generalizing session report with
  | nil => simp at failed
  | cons path paths ih =>
    rw [reportFiles_cons]
    cases outcome : (session.call (analyzeFile tree path)).1 with
    | error error => exact ⟨error, by rw [call_bind_error (Prod.ext outcome rfl)]⟩
    | ok violations =>
      rw [call_bind_ok (call_analyzeFile_eq_of_ok outcome)]
      refine ih ?_ _
      simpa [call_analyzeFile_renewed, outcome] using failed

-- Either all files are answered or one of them fails.
theorem answers_or_error (session : Session State) (tree : FileTree) (paths : List Path) :
    (∃ answers, List.Forall₂ (fun path violations => (session.call (analyzeFile tree path)).1 = .ok violations)
      paths answers) ∨ ∃ path ∈ paths, ∃ error, (session.call (analyzeFile tree path)).1 = .error error := by
  induction paths with
  | nil => exact .inl ⟨[], .nil⟩
  | cons path paths ih =>
    cases outcome : (session.call (analyzeFile tree path)).1 with
    | error error => exact .inr ⟨path, List.mem_cons_self, error, outcome⟩
    | ok violations =>
      rcases ih with ⟨answers, answered⟩ | ⟨other, mem, failed⟩
      · exact .inl ⟨violations :: answers, .cons outcome answered⟩
      · exact .inr ⟨other, List.mem_cons_of_mem _ mem, failed⟩

/-- What the analysis of a directory has to do with the analysis of its files. -/
structure AgreesWithFiles (session : Session State) (tree : FileTree) (path : Path) (exclude : List String) :
    Prop where
  fails : (∃ error, (session.call (analyzeTree tree path ⟨exclude, none⟩)).1 = .error error) ↔
    (∃ text ∈ exclude, ExcludePattern.ofText? text = none) ∨ Discovery.WalkFails tree path ∨
      ∃ files, Discovery.files tree path exclude = .ok files ∧
        ∃ file ∈ files, ∀ content, tree.readText file ≠ .ok content
  reports : ∀ report, (session.call (analyzeTree tree path ⟨exclude, none⟩)).1 = .ok report →
    ∃ files answers, Discovery.files tree path exclude = .ok files ∧
      List.Forall₂ (fun file violations => (session.call (analyzeFile tree file)).1 = .ok violations) files answers ∧
      report.filesChecked = files.length ∧
      List.Forall₂ (fun answer entry => entry.path = answer.1 ∧ Report.Arranged answer.2 entry.violations)
        ((files.zip answers).filter fun answer => answer.2 ≠ []) report.files ∧
      report.files.Pairwise fun left right => left.path.Precedes right.path

section

variable {files : List Path} {exclude : List String} (listed : Discovery.files tree path exclude = .ok files)
include listed

theorem call_analyzeTree_of_files : session.call (analyzeTree tree path ⟨exclude, none⟩) =
    session.call (reportFiles tree none .empty files) := by
  simp only [analyzeTree, listed]

/-- Once files are listed, only one that cannot be read makes the analysis fail. -/
theorem call_analyzeTree_eq_error_iff (directory : tree.isFile path = false) :
    (∃ error, (session.call (analyzeTree tree path ⟨exclude, none⟩)).1 = .error error) ↔
      ∃ file ∈ files, ∀ content, tree.readText file ≠ .ok content := by
  have unread {file : Path} (mem : file ∈ files) :
      (∃ error, (session.call (analyzeFile tree file)).1 = .error error) ↔
        ∀ content, tree.readText file ≠ .ok content := by
    obtain ⟨fileType, supported⟩ := Discovery.fileType_of_mem_files directory listed mem
    exact call_analyzeFile_eq_error_iff supported
  rw [call_analyzeTree_of_files listed]
  constructor
  · rintro ⟨error, failed⟩
    rcases answers_or_error session tree files with ⟨answers, answered⟩ | ⟨file, mem, failing⟩
    · rw [call_reportFiles_of_answers answered] at failed
      cases failed
    · exact ⟨file, mem, (unread mem).mp failing⟩
  · rintro ⟨file, mem, failing⟩
    exact call_reportFiles_of_error ⟨file, mem, (unread mem).mpr failing⟩ .empty

theorem answers_of_call_analyzeTree {report : Report}
    (reported : (session.call (analyzeTree tree path ⟨exclude, none⟩)).1 = .ok report) :
    ∃ answers, List.Forall₂ (fun file violations => (session.call (analyzeFile tree file)).1 = .ok violations)
      files answers ∧ report = Report.empty.pushAll (files.zip answers) := by
  rw [call_analyzeTree_of_files listed] at reported
  rcases answers_or_error session tree files with ⟨answers, answered⟩ | failing
  · rw [call_reportFiles_of_answers answered, Except.ok.injEq] at reported
    exact ⟨answers, answered, reported.symm⟩
  · obtain ⟨error, failed⟩ := call_reportFiles_of_error failing .empty
    rw [failed] at reported
    cases reported

end

/-- The analysis of a directory fails only for an invalid pattern, a walk that fails or a file that cannot be read.
Otherwise it reports what the files with violations are answered one by one. -/
theorem analyzeTree_agreesWithFiles (session : Session State) (wellNamed : tree.WellNamed)
    (directory : tree.isFile path = false) (exclude : List String) :
    session.AgreesWithFiles tree path exclude where
  fails := by
    rw [← or_assoc, ← Discovery.files_eq_error_iff directory]
    cases listed : Discovery.files tree path exclude with
    | error error =>
      have failed : (session.call (analyzeTree tree path ⟨exclude, none⟩)).1 = .error (.ofDiscovery error) := by
        simp only [analyzeTree, listed]
        rfl
      simp [failed]
    | ok files => simpa using call_analyzeTree_eq_error_iff listed directory
  reports report reported := by
    cases listed : Discovery.files tree path exclude with
    | error error =>
      simp only [analyzeTree, listed] at reported
      cases reported
    | ok files =>
      obtain ⟨answers, answered, rfl⟩ := answers_of_call_analyzeTree listed reported
      have paths : (files.zip answers).map Prod.fst = files := List.map_fst_zip (Nat.le_of_eq answered.length_eq)
      have ordered : (files.zip answers).Pairwise fun left right => left.1.Precedes right.1 := by
        rw [← List.pairwise_map, paths]
        exact Discovery.files_pairwise directory wellNamed listed
      refine ⟨files, answers, rfl, answered, ?_, Report.forall₂_files_pushAll _, ?_⟩
      · rw [Report.filesChecked_pushAll, ← List.length_map Prod.fst, paths]
        exact Nat.zero_add _
      · rw [Report.pushAll_eq]
        exact List.pairwise_map.mpr (ordered.filter _)

/-- A directory with an excluded file and a file further below. -/
theorem analyzeTree_agreesWithFiles_nested :
    let tree := ((FileTree.empty.putFile ["w", "b.bsl"] "// todo".toUTF8).putFile ["w", "a", "m.os"]
      "x = 7 + 8;".toUTF8).putFile ["w", "c.bsl"] "y = 9 + 9;".toUTF8
    let session : Session BuiltinRule :=
      ⟨⟨"/w"⟩, ⟨"/w/c.json"⟩, Builtin.registry, .opened .standard, ⟨none, none⟩, none⟩
    ((["c.*"].mapM ExcludePattern.parse).toOption.map fun patterns =>
        Discovery.select ⟨"/w"⟩ patterns (Discovery.walk tree ["w"])) = some [["a", "m.os"], ["b.bsl"]] ∧
      tree.WellNamed ∧ tree.isFile ⟨"/w"⟩ = false ∧ session.AgreesWithFiles tree ⟨"/w"⟩ ["c.*"] := by
  intro tree session
  have wellNamed : tree.WellNamed := by decide +kernel
  have directory : tree.isFile ⟨"/w"⟩ = false := by decide +kernel
  exact ⟨by decide +kernel, wellNamed, directory, analyzeTree_agreesWithFiles session wellNamed directory _⟩

end Session

end BslLint
