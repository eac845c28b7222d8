import BslLint.Check.Registry
import BslLint.Command.Output
import BslLint.Command.Lookup
import BslLint.Session

/-! Carrying out a command line. -/

set_option autoImplicit false

namespace BslLint.Command

/-- How a command ends: its exit code, what it prints, what it complains about, and the files it writes. -/
structure Outcome where
  exitCode : UInt8
  output : String
  complaint : Option String
  written : List (Path × String)
  deriving DecidableEq, Repr

namespace Outcome

def finished (exitCode : UInt8) (output : String) : Outcome :=
  ⟨exitCode, output, none, []⟩

def failed (complaint : String) : Outcome :=
  ⟨2, "", some complaint, []⟩

def ofError (error : SessionError) : Outcome :=
  let details := (error.message?.map fun message => ": " ++ message).getD ""
  let help := ((Failure.help? error).map fun help => "\n  " ++ help).getD ""
  failed (Failure.code error ++ details ++ help)

def apply (outcome : Outcome) (tree : FileTree) : FileTree :=
  outcome.written.foldl
    (fun tree (path, content) =>
      match tree.write path content with
      | .ok tree => tree
      | .error _ => tree)
    tree

end Outcome

-- The workspace of a path: a directory itself, or the directory of a file.
def workspaceRoot (tree : FileTree) (path : Path) : Path :=
  if tree.isFile path then
    match path.parent? with
    | some parent => if parent.text = "" then ⟨"."⟩ else parent
    | none => ⟨"."⟩
  else path

def openSession (tree : FileTree) (environment : Environment) (demand : Option Path) (path : Path) :
    Except SessionError (Session BuiltinRule) :=
  let root := workspaceRoot tree path
  Session.openAt tree root (some (Lookup.find tree environment root demand).path) Builtin.registry

def knownCodes {State : Type} (registry : Registry State) (filter : String) : List String :=
  let names := (Text.splitOn ',' filter.toList).map fun name => String.ofList (Text.trim name)
  names.filter fun name => name != "" && (registry.lookup? name).isSome

def treeOptions {State : Type} (registry : Registry State) (arguments : TreeArguments) : TreeOptions :=
  ⟨arguments.exclude, arguments.rules.map (knownCodes registry)⟩

def analyzed (tree : FileTree) (session : Session BuiltinRule) (arguments : TreeArguments) :
    Except SessionError Report × Session BuiltinRule :=
  session.call (Session.analyzeTree tree arguments.path (treeOptions session.registry arguments))

def checkOutcome (tree : FileTree) (session : Session BuiltinRule) (arguments : TreeArguments) : Outcome :=
  match (analyzed tree session arguments).1 with
  | .error error => .ofError error
  | .ok report => .finished (if report.hasBlocking then 1 else 0) (reportText report arguments.format)

/-- Runs one rule on one file, even if it is switched off or out of scope. -/
def runRuleOutcome (tree : FileTree) (session : Session BuiltinRule) (code : String) (file : Path)
    (format : OutputFormat) : Outcome :=
  match tree.readText file with
  | .error _ => .failed ("cannot read " ++ file.text)
  | .ok content =>
    match (session.call (Session.runRule code file content)).1 with
    | .error error => .ofError error
    | .ok violations => .finished 0 (reportText (Report.empty.push file violations) format)

-- Writes the initial configuration, over an existing one only by force.
def initOutcome (tree : FileTree) (force : Bool) (language : Language) : Outcome :=
  let path : Path := ⟨Snapshot.fileName⟩
  let content := initialText Builtin.registry language
  if tree.pathExists path && !force then
    .failed ("configuration file already exists at " ++ path.text ++ ", use --force to overwrite")
  else
    match tree.write path content with
    | .error _ => .failed ("cannot write " ++ path.text)
    | .ok _ => ⟨0, initialAdvice, none, [(path, content)]⟩

structure Watching where
  session : Session BuiltinRule
  subscriber : Subscriber
  arguments : TreeArguments

/-- What a command comes to: its outcome, or a run that goes on after printing something. -/
inductive Progress where
  | ended (outcome : Outcome)
  | goesOn (output : String) (watching : Watching)

-- Analyzes once, and goes on if the configuration file can be watched.
def watchProgress (tree : FileTree) (session : Session BuiltinRule) (arguments : TreeArguments) : Progress :=
  let subscriber := session.store.subscribe
  match analyzed tree session arguments with
  | (.error error, _) => .ended (.ofError error)
  | (.ok report, session) =>
    let output := reportText report arguments.format
    let session := session.startWatching.settle tree
    if session.watcherState = .watching then .goesOn output ⟨session, subscriber, arguments⟩
    else .ended { Outcome.failed ("could not watch " ++ session.configurationPath.text) with output }

def Watching.next (watching : Watching) (before after : FileTree) : Progress :=
  let path := watching.session.configurationPath
  let session := match watching.session.watcher.bind Watcher.directory, path.fileName? with
    | some directory, some name =>
      let place := directory ++ [name]
      if FileTree.hasSameContent before after place then watching.session
      else watching.session.observe place
    | _, _ => watching.session
  let session := session.settle after
  let (edition, subscriber) := watching.subscriber.next? session.store
  match edition with
  | none => .goesOn "" { watching with session }
  | some _ =>
    match analyzed after session watching.arguments with
    | (.error error, _) => .ended (.ofError error)
    | (.ok report, session) =>
      .goesOn (reportText report watching.arguments.format) ⟨session, subscriber, watching.arguments⟩

def withSession (tree : FileTree) (environment : Environment) (demand : Option Path) (path : Path)
    (proceed : Session BuiltinRule → Progress) : Progress :=
  match openSession tree environment demand path with
  | .error error => .ended (.ofError error)
  | .ok session => proceed session

def perform (tree : FileTree) (environment : Environment) (invocation : Invocation) : Progress :=
  let demand := invocation.configuration
  match invocation.task with
  | .check arguments =>
    withSession tree environment demand arguments.path fun session =>
      .ended (checkOutcome tree session arguments)
  | .watch arguments =>
    withSession tree environment demand arguments.path fun session => watchProgress tree session arguments
  | .runRule code file format =>
    withSession tree environment demand file fun session =>
      .ended (runRuleOutcome tree session code file format)
  | .listRules language format =>
    .ended (.finished 0 (listing language Builtin.registry.descriptors format))
  | .init force language => .ended (initOutcome tree force language)

def versionText : String :=
  lines ["bsl-analyzer 0.3.0"]

def helpText : String :=
  lines ["Usage: bsl-analyzer [OPTIONS] <COMMAND>", "", "Commands:",
    "  check [PATH]            Run diagnostics",
    "  watch [PATH]            Run diagnostics whenever the configuration changes",
    "  run-rule <CODE> <FILE>  Run one rule on one file",
    "  list-rules              List available rules",
    "  init                    Create a configuration file"]

def run (tree : FileTree) (environment : Environment) (arguments : List String) : Progress :=
  match Request.ofArguments environment.configuration arguments with
  | .run invocation => perform tree environment invocation
  | .help => .ended (.finished 0 helpText)
  | .version => .ended (.finished 0 versionText)
  | .usage => .ended (.failed helpText)

end BslLint.Command
