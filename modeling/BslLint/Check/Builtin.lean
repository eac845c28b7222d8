import BslLint.Check.CommentedCode
import BslLint.Check.DirectivePosition
import BslLint.Check.LineLength
import BslLint.Check.MagicNumber
import BslLint.Check.ModalWindow
import BslLint.Check.ServiceTag
import BslLint.Check.YoLetter
import BslLint.Rule.Metadata

/-! The built-in rules: their codes, what they declare, and their states. -/

set_option autoImplicit false

namespace BslLint

inductive Builtin where
  | lineLength
  | serviceTag
  | yoLetter
  | modalWindow
  | magicNumber
  | commentedCode
  | directivePosition
  deriving DecidableEq, Repr

instance : Named Builtin where
  all := [.lineLength, .serviceTag, .yoLetter, .modalWindow, .magicNumber, .commentedCode, .directivePosition]
  name
    | .lineLength => "LineLength"
    | .serviceTag => "UsingServiceTag"
    | .yoLetter => "YoLetterUsage"
    | .modalWindow => "UsingModalWindows"
    | .magicNumber => "MagicNumber"
    | .commentedCode => "CommentedCode"
    | .directivePosition => "UseDirectivePosition"

inductive BuiltinRule where
  | lineLength (rule : LineLength)
  | serviceTag (rule : ServiceTag)
  | yoLetter (rule : YoLetter)
  | modalWindow (rule : ModalWindow)
  | magicNumber (rule : MagicNumber)
  | commentedCode (rule : CommentedCode)
  | directivePosition (rule : DirectivePosition)
  deriving DecidableEq, Repr

namespace BuiltinRule

def configureAs {State : Type} [Rule State] (wrap : State → BuiltinRule) (rule : State)
    (parameters : Parameters) : Configuring BuiltinRule Unit := do
  let (outcome, rule) := Rule.runConfigure parameters rule
  set (wrap rule)
  MonadExcept.ofExcept outcome

instance : Rule BuiltinRule where
  configure parameters := do
    match ← get with
    | .lineLength rule => configureAs .lineLength rule parameters
    | .serviceTag rule => configureAs .serviceTag rule parameters
    | .yoLetter rule => configureAs .yoLetter rule parameters
    | .modalWindow rule => configureAs .modalWindow rule parameters
    | .magicNumber rule => configureAs .magicNumber rule parameters
    | .commentedCode rule => configureAs .commentedCode rule parameters
    | .directivePosition rule => configureAs .directivePosition rule parameters
  check
    | .lineLength rule, document => Rule.check rule document
    | .serviceTag rule, document => Rule.check rule document
    | .yoLetter rule, document => Rule.check rule document
    | .modalWindow rule, document => Rule.check rule document
    | .magicNumber rule, document => Rule.check rule document
    | .commentedCode rule, document => Rule.check rule document
    | .directivePosition rule, document => Rule.check rule document

end BuiltinRule

namespace Builtin

def fresh : Builtin → BuiltinRule
  | .lineLength => .lineLength .standard
  | .serviceTag => .serviceTag .standard
  | .yoLetter => .yoLetter {}
  | .modalWindow => .modalWindow {}
  | .magicNumber => .magicNumber .standard
  | .commentedCode => .commentedCode .standard
  | .directivePosition => .directivePosition {}

def metadata (rule : Builtin) : RuleMetadata :=
  let code := Named.name rule
  match rule with
  | .lineLength =>
    ⟨code, true, .all, none, [.standard, .badPractice], .minor, .codeSmell, 1⟩
  | .serviceTag =>
    ⟨code, true, .all, none, [.badPractice], .info, .codeSmell, 0⟩
  | .yoLetter =>
    ⟨code, true, .bsl, none, [.standard], .info, .codeSmell, 5⟩
  | .modalWindow =>
    ⟨code, true, .bsl, some ⟨8, 3, 3⟩, [.standard], .major, .codeSmell, 15⟩
  | .magicNumber =>
    ⟨code, true, .all, none, [.badPractice], .minor, .codeSmell, 1⟩
  | .commentedCode =>
    ⟨code, false, .all, none, [.standard, .badPractice], .minor, .codeSmell, 1⟩
  | .directivePosition =>
    ⟨code, true, .os, none, [.standard], .critical, .error, 1⟩

end Builtin

end BslLint
