import BslLint.Check.Builtin
import BslLint.Rule.Registry

/-! The built-in rules with their texts, and the registry of them. -/

set_option autoImplicit false

namespace BslLint

namespace Builtin

def enTexts : Builtin → RuleTexts
  | .lineLength => {
      name := "Line length limit"
      message := "Line is \x7b0\x7d characters long, the limit is \x7b1\x7d"
      description := "Long lines are hard to read and to compare side by side. Keep every line\n" ++
        "within the configured limit (`maxLineLength`, 120 characters by default)." }
  | .serviceTag => {
      name := "Service tag in comment"
      message := "Comment contains service tag \"\x7b0\x7d\""
      description := "Tags such as TODO, FIXME or \"for debugging\" mark unfinished work. Resolve\n" ++
        "the note or move it to the issue tracker before the code is delivered." }
  | .yoLetter => {
      name := "Letter Ё in identifier"
      message := "Identifier \"\x7b0\x7d\" uses the letter Ё, use Е instead"
      description := "The development standards require Е instead of Ё in names so that a search\n" ++
        "for an identifier never depends on the letter that was typed." }
  | .modalWindow => {
      name := "Modal window call"
      message := "Modal call \"\x7b0\x7d\", use \"\x7b1\x7d\" instead"
      description := "Since platform 8.3.3 configurations that run without modality (web client,\n" ++
        "mobile platform) cannot open modal windows. Use the non-blocking method with\n" ++
        "a notification handler." }
  | .magicNumber => {
      name := "Magic number"
      message := "Magic number \x7b0\x7d, give it a name"
      description := "A bare number does not explain its meaning. Assign it to a variable with a\n" ++
        "meaningful name. Numbers from `authorizedNumbers` and, when\n" ++
        "`allowMagicIndexes` is set, collection indexes are allowed." }
  | .commentedCode => {
      name := "Commented-out code"
      message := "Remove commented-out code"
      description := "Disabled code is kept by version control; leaving it in comments only makes\n" ++
        "the module harder to read. A comment block is reported when the share of\n" ++
        "lines that look like code reaches `threshold`." }
  | .directivePosition => {
      name := "Directive position"
      message := "Directive \"\x7b0\x7d\" must precede all code"
      description := "OneScript honours #Use (#Использовать) directives only at the top of a\n" ++
        "module, before the first statement." }

def ruTexts : Builtin → RuleTexts
  | .lineLength => {
      name := "Ограничение на длину строки"
      message := "Длина строки \x7b0\x7d превышает допустимую (\x7b1\x7d)"
      description := "Длинные строки трудно читать и сравнивать. Длина строки не должна превышать\n" ++
        "заданного ограничения (`maxLineLength`, по умолчанию 120 символов)." }
  | .serviceTag => {
      name := "Служебный тег в комментарии"
      message := "Комментарий содержит служебный тег \"\x7b0\x7d\""
      description := "Теги TODO, FIXME, \"для отладки\" и подобные отмечают незавершенную работу.\n" ++
        "Перед поставкой кода задачу нужно выполнить или перенести в трекер." }
  | .yoLetter => {
      name := "Использование буквы Ё в идентификаторе"
      message := "Идентификатор \"\x7b0\x7d\" содержит букву Ё, используйте Е"
      description := "Стандарты разработки требуют использовать Е вместо Ё в именах, чтобы поиск\n" ++
        "идентификатора не зависел от набранной буквы." }
  | .modalWindow => {
      name := "Использование модальных окон"
      message := "Модальный вызов \"\x7b0\x7d\", используйте \"\x7b1\x7d\""
      description := "Начиная с платформы 8.3.3 конфигурации в режиме без модальности (веб-клиент,\n" ++
        "мобильная платформа) не могут открывать модальные окна. Используйте\n" ++
        "немодальный метод с обработчиком оповещения." }
  | .magicNumber => {
      name := "Магические числа"
      message := "Магическое число \x7b0\x7d, присвойте его переменной с понятным именем"
      description := "Число без имени не объясняет своего смысла. Присвойте его переменной с\n" ++
        "понятным именем. Числа из `authorizedNumbers` и, при `allowMagicIndexes`,\n" ++
        "индексы коллекций допускаются." }
  | .commentedCode => {
      name := "Закомментированный код"
      message := "Удалите закомментированный код"
      description := "Отключенный код хранится в системе контроля версий; в комментариях он только\n" ++
        "мешает читать модуль. Блок комментариев считается кодом, когда доля строк,\n" ++
        "похожих на код, достигает `threshold`." }
  | .directivePosition => {
      name := "Положение директивы #Использовать"
      message := "Директива \"\x7b0\x7d\" должна предшествовать коду модуля"
      description := "OneScript учитывает директивы #Использовать (#Use) только в начале модуля,\n" ++
        "до первого оператора." }

def textEntries (texts : Builtin → RuleTexts) : Dictionary RuleTexts :=
  Dictionary.ofList (Named.all.map fun rule => (Named.name rule, texts rule))

def catalog : Catalog :=
  ⟨textEntries enTexts, textEntries ruTexts⟩

-- A rule as it is registered: what it declares, and its fresh state.
def registration (rule : Builtin) : RuleMetadata × BuiltinRule :=
  (rule.metadata, rule.fresh)

def registeredRule (rule : Builtin) : RegisteredRule BuiltinRule :=
  ⟨⟨rule.metadata, rule.enTexts, rule.ruTexts⟩, rule.fresh⟩

def registry : Registry BuiltinRule :=
  ⟨Named.all.map registeredRule⟩

end Builtin

end BslLint
