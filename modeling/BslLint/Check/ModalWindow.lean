import BslLint.Rule.Basic
import BslLint.Source.Literal
import BslLint.Source.Word
import BslLint.Text.Case
import BslLint.Text.Space

/-! Calls that open modal windows. -/

set_option autoImplicit false

namespace BslLint

structure ModalWindow where
  deriving DecidableEq, Repr

namespace ModalWindow

def globalMethods : List (String × String) :=
  [("Вопрос", "ПоказатьВопрос"), ("Предупреждение", "ПоказатьПредупреждение"),
   ("ОткрытьЗначение", "ПоказатьЗначение"), ("ОткрытьФормуМодально", "ОткрытьФорму"),
   ("ВвестиЧисло", "ПоказатьВводЧисла"), ("ВвестиСтроку", "ПоказатьВводСтроки"),
   ("ВвестиДату", "ПоказатьВводДаты"), ("ВвестиЗначение", "ПоказатьВводЗначения"),
   ("DoQueryBox", "ShowQueryBox"), ("DoMessageBox", "ShowMessageBox"), ("OpenValue", "ShowValue"),
   ("OpenFormModal", "OpenForm"), ("InputNumber", "ShowInputNumber"), ("InputString", "ShowInputString"),
   ("InputDate", "ShowInputDate"), ("InputValue", "ShowInputValue")]

def formMethods : List (String × String) :=
  [("ОткрытьМодально", "Открыть"), ("DoModal", "Open")]

/-- Whether the name is called: a parenthesis follows, perhaps after white space. -/
def isCalled (name : Source.Span) : Bool :=
  (Text.trimStart name.after).head? == some '('

/-- Whether the name is reached through an object: a point precedes, perhaps with white space between. -/
def isMember (name : Source.Span) : Bool :=
  (Text.trimStart name.before).head? == some '.'

def replacementIn (methods : List (String × String)) (name : List Char) : Option String :=
  (methods.find? fun entry => Text.lowercase entry.1.toList == Text.lowercase name).map Prod.snd

def replacement? (name : Source.Span) : Option String :=
  replacementIn (if isMember name then formMethods else globalMethods) name.chars

def checkName (number : Nat) (name : Source.Span) : Option Source.Finding :=
  if isCalled name then
    (replacement? name).map fun replacement => name.finding number [name.text, replacement]
  else none

def checkLine (number : Nat) (line : List Char) : List Source.Finding :=
  (Source.names (Source.maskedCode line)).filterMap (checkName number)

instance : Rule ModalWindow where
  check _ document := Source.checkLines document checkLine

end ModalWindow

end BslLint
