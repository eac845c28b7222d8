import BslLint.Pattern.Reader
import BslLint.Pattern.Search
import BslLint.Rule.Basic
import BslLint.Source.Literal

/-! Service tags in comments. A tag stands as a whole word, in any case. -/

set_option autoImplicit false

namespace BslLint

structure ServiceTag where
  /-- The pattern of a comment with a tag, which it marks. -/
  pattern : Pattern
  deriving DecidableEq, Repr

namespace ServiceTag

def tagsKey : String := "serviceTags"

def standardTags : String := "todo|fixme|!!|mrg|@|отладка|для\\s*отладки"

/-- Tags between ends of the comment or characters that are not part of a word. -/
def patternText (tags : String) : List Char :=
  "(?i)(?:^|[^\\w])(".toList ++ tags.toList ++ ")(?:[^\\w]|$)".toList

def patternOf? (tags : String) : Option Pattern :=
  Pattern.ofText? (patternText tags)

def standard : ServiceTag :=
  ⟨(patternOf? standardTags).getD .empty⟩

def patternOf (tags : String) : Except ParameterError Pattern :=
  if Text.isBlank tags.toList then .error (.value tagsKey "must not be empty")
  else match patternOf? tags with
    | some pattern => .ok pattern
    | none => .error (.pattern tagsKey)

def tag? (rule : ServiceTag) (line : List Char) : Option Source.Span :=
  match Source.splitComment line with
  | (code, some comment) =>
    (rule.pattern.findMarked? comment).map fun tag =>
      { tag with before := tag.before ++ '/' :: '/' :: code.reverse }
  | (_, none) => none

def checkLine (rule : ServiceTag) (number : Nat) (line : List Char) : List Source.Finding :=
  ((rule.tag? line).map fun tag => tag.finding number [tag.text]).toList

instance : Rule ServiceTag where
  configure parameters := do
    MonadExcept.ofExcept (parameters.onlyKnown [tagsKey])
    let tags ← MonadExcept.ofExcept (parameters.nullable? tagsKey Json.asString?)
    if let some tags := tags then
      let pattern ← MonadExcept.ofExcept (patternOf tags)
      modify fun rule => { rule with pattern }
  check rule document := Source.checkLines document rule.checkLine

end ServiceTag

end BslLint
