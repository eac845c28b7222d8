import BslLint.Message
import BslLint.Path

/-! Reading the arguments of the command line. Arguments are first split into tokens, which depends on the
subcommand; the tokens are then taken over one after another, and the first that does not fit ends the
reading. -/

set_option autoImplicit false

namespace BslLint.Command

inductive OutputFormat where
  | text
  | json
  | compact
  deriving DecidableEq, Repr

instance : Named OutputFormat where
  all := [.text, .json, .compact]
  name
    | .text => "text"
    | .json => "json"
    | .compact => "compact"

inductive ListFormat where
  | text
  | json
  deriving DecidableEq, Repr

instance : Named ListFormat where
  all := [.text, .json]
  name
    | .text => "text"
    | .json => "json"

structure TreeArguments where
  path : Path
  format : OutputFormat
  /-- The codes of the rules to run, separated by commas. -/
  rules : Option String
  exclude : List String
  deriving DecidableEq, Repr

inductive Task where
  | check (arguments : TreeArguments)
  | watch (arguments : TreeArguments)
  | runRule (code : String) (file : Path) (format : OutputFormat)
  | listRules (language : Language) (format : ListFormat)
  | init (force : Bool) (language : Language)
  deriving DecidableEq, Repr

structure Invocation where
  verbose : Bool
  configuration : Option Path
  task : Task
  deriving DecidableEq, Repr

/-- What a command line asks for; `usage` is a mistake in it. -/
inductive Request where
  | run (invocation : Invocation)
  | help
  | version
  | usage
  deriving DecidableEq, Repr

inductive Subcommand where
  | check
  | watch
  | runRule
  | listRules
  | init
  deriving DecidableEq, Repr

instance : Named Subcommand where
  all := [.check, .watch, .runRule, .listRules, .init]
  name
    | .check => "check"
    | .watch => "watch"
    | .runRule => "run-rule"
    | .listRules => "list-rules"
    | .init => "init"

inductive Opt where
  | help
  | version
  | verbose
  | configuration
  | format
  | rules
  | exclude
  | language
  | force
  deriving DecidableEq, Repr

instance : Named Opt where
  all := [.help, .version, .verbose, .configuration, .format, .rules, .exclude, .language, .force]
  name
    | .help => "help"
    | .version => "version"
    | .verbose => "verbose"
    | .configuration => "config"
    | .format => "format"
    | .rules => "rules"
    | .exclude => "exclude"
    | .language => "language"
    | .force => "force"

namespace Opt

def letter? : Opt → Option Char
  | .help => some 'h'
  | .version => some 'V'
  | .verbose => some 'v'
  | .configuration => some 'c'
  | .format => some 'f'
  | .exclude => some 'e'
  | .language => some 'l'
  | .rules | .force => none

def takesValue : Opt → Bool
  | .configuration | .format | .rules | .exclude | .language => true
  | .help | .version | .verbose | .force => false

def isFor (option : Opt) (subcommand : Option Subcommand) : Bool :=
  match option, subcommand with
  | .help, _ | .verbose, _ | .configuration, _ => true
  | .version, none => true
  | .format, some .init => false
  | .format, some _ => true
  | .rules, some .check | .rules, some .watch => true
  | .exclude, some .check | .exclude, some .watch => true
  | .language, some .listRules | .language, some .init => true
  | .force, some .init => true
  | _, _ => false

def ofLong? (subcommand : Option Subcommand) (name : String) : Option Opt :=
  (Named.ofName? name).filter fun option => option.isFor subcommand

def ofLetter? (subcommand : Option Subcommand) (letter : Char) : Option Opt :=
  Named.all.find? fun option : Opt => option.isFor subcommand && option.letter? == some letter

end Opt

inductive Token where
  | subcommand (subcommand : Subcommand)
  /-- An option; a flag has an empty value. -/
  | option (option : Opt) (value : String)
  | word (text : String)
  /-- A request for help on the named subcommands. -/
  | helpOn (names : List String)
  /-- Something that is no part of a command line. -/
  | invalid
  deriving DecidableEq, Repr

inductive Argument where
  | word (text : String)
  | endOfOptions
  | long (name : String) (value : Option String)
  | letters (letters : List Char)
  deriving DecidableEq, Repr

namespace Argument

def ofText (text : String) : Argument :=
  match text.toList with
  | ['-', '-'] => .endOfOptions
  | '-' :: '-' :: rest =>
    match rest.dropWhile (· != '=') with
    | _ :: value => .long (String.ofList (rest.takeWhile (· != '='))) (some (String.ofList value))
    | [] => .long (String.ofList rest) none
  | '-' :: first :: others => .letters (first :: others)
  | _ => .word text

def isWord : Argument → Bool
  | .word _ => true
  | _ => false

end Argument

/-- The tokens of a group of letters. The last may be an option whose value is attached, or is to follow. -/
def letterTokens (subcommand : Option Subcommand) : List Char → List Token × Option Opt
  | [] => ([], none)
  | letter :: rest =>
    match Opt.ofLetter? subcommand letter with
    | none => ([.invalid], none)
    | some option =>
      if option.takesValue then
        match rest with
        | [] => ([], some option)
        | '=' :: value => ([.option option (String.ofList value)], none)
        | value => ([.option option (String.ofList value)], none)
      else
        let (tokens, waiting) := letterTokens subcommand rest
        (.option option "" :: tokens, waiting)

def longTokens (subcommand : Option Subcommand) (name : String) (value : Option String) :
    List Token × Option Opt :=
  match Opt.ofLong? subcommand name, value with
  | none, _ => ([.invalid], none)
  | some option, none => if option.takesValue then ([], some option) else ([.option option ""], none)
  | some option, some value => if option.takesValue then ([.option option value], none) else ([.invalid], none)

/-- Splits arguments into tokens; `waiting` is an option whose value has to come next. -/
def tokens (subcommand : Option Subcommand) (waiting : Option Opt) : List String → List Token
  | [] => if waiting.isSome then [.invalid] else []
  | argument :: rest =>
    match waiting, Argument.ofText argument with
    | some option, .word value => .option option value :: tokens subcommand none rest
    | some _, _ => [.invalid]
    | none, .endOfOptions => rest.map Token.word
    | none, .long name value =>
      let (found, waiting) := longTokens subcommand name value
      found ++ tokens subcommand waiting rest
    | none, .letters letters =>
      let (found, waiting) := letterTokens subcommand letters
      found ++ tokens subcommand waiting rest
    | none, .word text =>
      match subcommand with
      | some _ => .word text :: tokens subcommand none rest
      | none =>
        match Named.ofName? text with
        | some named => .subcommand named :: tokens (some named) none rest
        | none => if text = "help" then [.helpOn rest] else [.invalid]

/-- What has been read: the subcommand, the options with the subcommand they stand after, and the words. -/
structure Draft where
  subcommand : Option Subcommand
  given : List (Opt × Option Subcommand × String)
  words : List String

namespace Draft

def empty : Draft :=
  ⟨none, [], []⟩

def isGiven (draft : Draft) (option : Opt) : Bool :=
  draft.given.any fun entry => entry.1 == option && entry.2.1 == draft.subcommand

def acceptsValue (draft : Draft) (option : Opt) (value : String) : Bool :=
  match option with
  | .configuration => value != ""
  | .format =>
    if draft.subcommand = some .listRules then (Named.ofName? value : Option ListFormat).isSome
    else (Named.ofName? value : Option OutputFormat).isSome
  | .language => (Named.ofName? value : Option Language).isSome
  | _ => true

def addOption? (draft : Draft) (option : Opt) (value : String) : Option Draft :=
  if draft.acceptsValue option value && (option == .exclude || !draft.isGiven option) then
    some { draft with given := draft.given ++ [(option, draft.subcommand, value)] }
  else none

/-- A word has to be expected; a path is not empty. -/
def addWord? (draft : Draft) (text : String) : Option Draft :=
  let isPath := text != ""
  let expected := match draft.subcommand, draft.words.length with
    | some .check, 0 | some .watch, 0 => isPath
    | some .runRule, 0 => true
    | some .runRule, 1 => isPath
    | _, _ => false
  if expected then some { draft with words := draft.words ++ [text] } else none

def values (draft : Draft) (option : Opt) : List String :=
  (draft.given.filter fun entry => entry.1 == option).map fun entry => entry.2.2

def choice {Choice : Type} [Named Choice] (draft : Draft) (option : Opt) (default : Choice) : Choice :=
  ((draft.values option).getLast?.bind Named.ofName?).getD default

def treeArguments (draft : Draft) : TreeArguments where
  path := ⟨draft.words.head?.getD "."⟩
  format := draft.choice .format .text
  rules := (draft.values .rules).getLast?
  exclude := draft.values .exclude

def task? (draft : Draft) : Option Task :=
  match draft.subcommand, draft.words with
  | none, _ => none
  | some .check, _ => some (.check draft.treeArguments)
  | some .watch, _ => some (.watch draft.treeArguments)
  | some .runRule, [code, file] => some (.runRule code ⟨file⟩ (draft.choice .format .text))
  | some .runRule, _ => none
  | some .listRules, _ => some (.listRules (draft.choice .language .ru) (draft.choice .format .text))
  | some .init, _ => some (.init (draft.isGiven .force) (draft.choice .language .ru))

/-- The configuration that is asked for: the last one given, or else that of the environment. A value of the
environment that is looked at may not be empty. -/
def configuration? (draft : Draft) (environment : Option String) : Option (Option Path) :=
  let values := draft.values .configuration
  match environment with
  | none => some (values.getLast?.map Path.mk)
  | some value => if value = "" ∧ values.length < 2 then none else some (some ⟨values.getLast?.getD value⟩)

def finish (draft : Draft) (environment : Option String) : Request :=
  match draft.configuration? environment, draft.task? with
  | some configuration, some task => .run ⟨!(draft.values .verbose).isEmpty, configuration, task⟩
  | _, _ => .usage

-- Whether help exists on subcommands: on one of them, or on the help itself.
def hasHelpOn : List String → Bool
  | [] => true
  | [name] => name == "help" || (Named.ofName? name : Option Subcommand).isSome
  | _ => false

def readTokens (environment : Option String) (draft : Draft) : List Token → Request
  | [] => draft.finish environment
  | .invalid :: _ => .usage
  | .helpOn names :: _ => if hasHelpOn names then .help else .usage
  | .subcommand subcommand :: rest => readTokens environment { draft with subcommand := some subcommand } rest
  | .option .help _ :: _ => .help
  | .option .version _ :: _ => .version
  | .option option value :: rest =>
    match draft.addOption? option value with
    | some draft => readTokens environment draft rest
    | none => .usage
  | .word text :: rest =>
    match draft.addWord? text with
    | some draft => readTokens environment draft rest
    | none => .usage

end Draft

/-- Reads a command line, given the configuration that the environment asks for. -/
def Request.ofArguments (environment : Option String) (arguments : List String) : Request :=
  Draft.readTokens environment Draft.empty (tokens none none arguments)

end BslLint.Command
