import BslLint.Check.Registry
import BslLint.Proofs.Check.EmptyLines
import BslLint.Proofs.Session.Analysis
import BslLint.Proofs.Workspace.Editing

/-! How a text is written makes no difference to what a session reports on it: carriage returns before line feeds, a
byte order mark, and empty lines at the end. -/

set_option autoImplicit false

namespace BslLint

open Document

theorem RuleInstance.run_of_extends {other document : Document} (extend : other.Extends document)
    (rule : RuleInstance BuiltinRule) : rule.run other = rule.run document := by
  rw [run, run, BuiltinRule.check_of_extends extend]

section

variable {content other : String} (bare : Bare content.toList) (retouched : Retouched content.toList other.toList)
include bare retouched

theorem Registry.analyze_retouched (registry : Registry BuiltinRule) (snapshot : Snapshot) (context : Context)
    (only : Option (List String)) (path : Path) :
    registry.analyze snapshot context only path other = registry.analyze snapshot context only path content := by
  have extend : (ofText path context.fileType other).Extends (ofText path context.fileType content) :=
    retouched.lines bare path context.fileType
  unfold analyze
  simp only [RuleInstance.run_of_extends extend]

theorem Registry.runRule_retouched (registry : Registry BuiltinRule) (snapshot : Snapshot) (code : String)
    (path : Path) (fileType : FileType) :
    registry.runRule snapshot code path fileType other = registry.runRule snapshot code path fileType content := by
  have extend : (ofText path fileType other).Extends (ofText path fileType content) :=
    retouched.lines bare path fileType
  unfold runRule
  simp only [RuleInstance.run_of_extends extend]

namespace Session

variable (session : Session BuiltinRule) (path : Path)

theorem call_analyzeOnly_retouched (tree : FileTree) (only : Option (List String)) :
    session.call (analyzeOnly tree only path other) = session.call (analyzeOnly tree only path content) := by
  cases supported : FileType.ofPath? path with
  | none => rw [call_analyzeOnly_unsupported _ _ _ _ _ supported, call_analyzeOnly_unsupported _ _ _ _ _ supported]
  | some fileType =>
    rw [call_analyzeOnly_supported _ _ _ _ _ supported, call_analyzeOnly_supported _ _ _ _ _ supported,
      Registry.analyze_retouched bare retouched]

theorem call_runRule_retouched (code : String) :
    session.call (runRule code path other) = session.call (runRule code path content) := by
  unfold runRule
  cases FileType.ofPath? path with
  | none => rfl
  | some fileType =>
    have got : session.call get = (.ok session, session) := rfl
    rw [call_bind_ok got, call_bind_ok got, Registry.runRule_retouched bare retouched]

end Session

end

/-- A file with the same text, written in another way. -/
def RetouchesFile (_ : Place) (content other : ByteArray) : Prop :=
  ∃ text shown, String.fromUTF8? content = some text ∧ String.fromUTF8? other = some shown ∧
    Bare text.toList ∧ Retouched text.toList shown.toList

namespace FileTree.Edits

variable {tree other : FileTree} (edits : tree.Edits RetouchesFile other)
include edits

theorem readText_retouched (path : Path) : other.readText path = tree.readText path ∨
    ∃ text shown, tree.readText path = .ok text ∧ other.readText path = .ok shown ∧ Bare text.toList ∧
      Retouched text.toList shown.toList := by
  unfold readText
  rcases edits.read_cases path with same | ⟨_, content, edited, _, before, after, change, _⟩
  · exact .inl (by rw [same])
  · obtain ⟨text, shown, decoded, decodedOther, bare, retouched⟩ := change
    refine .inr ⟨text, shown, ?_, ?_, bare, retouched⟩
    · simp only [before, bind, Except.bind, decoded]
      rfl
    · simp only [after, bind, Except.bind, decodedOther]
      rfl

theorem renewed_eq (session : Session BuiltinRule) : session.renewed other = session.renewed tree := by
  unfold Session.renewed Detection.renew Detection.run
  rw [edits.mode?_eq]

theorem call_reportFiles_eq (session : Session BuiltinRule) (only : Option (List String)) (report : Report)
    (paths : List Path) : session.call (Session.reportFiles other only report paths) =
      session.call (Session.reportFiles tree only report paths) := by
  induction paths generalizing session report with
  | nil => rfl
  | cons path paths ih =>
    rw [Session.call_reportFiles_cons, Session.call_reportFiles_cons]
    simp only [Session.contextOf, edits.renewed_eq, ih]
    rcases edits.readText_retouched path with same | ⟨text, shown, read, readOther, bare, retouched⟩
    · rw [same]
    · rw [read, readOther]
      cases FileType.ofPath? path with
      | none => rfl
      | some fileType => simp only [Registry.analyze_retouched bare retouched]

end FileTree.Edits

/-- A session answers the same however the texts are written that it analyzes, by themselves or as files of a tree. -/
theorem Session.answers_retouched (session : Session BuiltinRule) :
    (∀ content other : String, Bare content.toList → Retouched content.toList other.toList → ∀ path,
      (∀ tree, session.call (analyze tree path other) = session.call (analyze tree path content)) ∧
        ∀ code, session.call (runRule code path other) = session.call (runRule code path content)) ∧
    ∀ tree other : FileTree, tree.Edits RetouchesFile other → ∀ path options,
      session.call (analyzeTree other path options) = session.call (analyzeTree tree path options) := by
  constructor
  · intro content other bare retouched path
    exact ⟨fun tree => session.call_analyzeOnly_retouched bare retouched path tree none,
      session.call_runRule_retouched bare retouched path⟩
  · intro tree other edits path options
    unfold analyzeTree
    rw [edits.files_eq]
    cases Discovery.files tree path options.exclude with
    | error error => rfl
    | ok paths => exact edits.call_reportFiles_eq session options.rules .empty paths

/-- A file with findings, and again with a byte order mark, carriage returns, and two empty lines at the end. -/
theorem Session.answers_retouched_marked :
    let session : Session BuiltinRule :=
      ⟨⟨"/w"⟩, ⟨"/w/c.json"⟩, Builtin.registry, .opened .standard, ⟨none, none⟩, none⟩
    let content := "Если Ёж > 42 Тогда\n"
    let other := "\uFEFFЕсли Ёж > 42 Тогда\r\n\r\n\r\n"
    let place := ["w", "m.bsl"]
    let tree := FileTree.empty.putFile place content.toUTF8
    let otherTree := FileTree.empty.putFile place other.toUTF8
    let found (text : String) := (Builtin.registry.instances ⟨.bsl, none⟩ .standard).flatMap fun rule =>
      (rule.run (.ofText ⟨"m.bsl"⟩ .bsl text)).map fun violation => (violation.code, violation.range.start.character)
    Bare content.toList ∧ Retouched content.toList other.toList ∧ tree.Edits RetouchesFile otherTree ∧
      found content = [("YoLetterUsage", 5), ("MagicNumber", 10)] ∧
      found other = [("YoLetterUsage", 5), ("MagicNumber", 10)] ∧
      session.call (analyze tree ⟨"m.bsl"⟩ other) = session.call (analyze tree ⟨"m.bsl"⟩ content) ∧
      session.call (runRule "MagicNumber" ⟨"m.bsl"⟩ other) = session.call (runRule "MagicNumber" ⟨"m.bsl"⟩ content) ∧
      session.call (analyzeTree otherTree ⟨"/w"⟩ ⟨[], none⟩) = session.call (analyzeTree tree ⟨"/w"⟩ ⟨[], none⟩) := by
  intro session content other place tree otherTree found
  have bare : Bare content.toList := ⟨by decide +kernel, by decide +kernel⟩
  have retouched : Retouched content.toList other.toList := by
    have written : other.toList = [byteOrderMark] ++ (content.toList ++ List.replicate 2 '\n').flatMap fun char =>
        if char = '\n' then ['\r', '\n'] else [char] := by decide +kernel
    rw [written]
    exact .of (.inr rfl) (.inr (by decide +kernel)) (relined_returns _)
  have file : RetouchesFile place content.toUTF8 other.toUTF8 :=
    ⟨content, other, by decide +kernel, by decide +kernel, bare, retouched⟩
  have edits : tree.Edits RetouchesFile otherTree := FileTree.empty.edits_putFile file (by decide)
  obtain ⟨texts, files⟩ := session.answers_retouched
  obtain ⟨analyzes, runs⟩ := texts content other bare retouched ⟨"m.bsl"⟩
  exact ⟨bare, retouched, edits, by decide +kernel, by decide +kernel, analyzes tree, runs "MagicNumber",
    files tree otherTree edits ⟨"/w"⟩ ⟨[], none⟩⟩

end BslLint
