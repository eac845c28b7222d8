import BslLint.Named
import BslLint.Text.Natural

/-! The languages of messages, and their templates. A placeholder is an argument number in braces; it stands for that
argument, which is not looked at again. -/

set_option autoImplicit false

namespace BslLint

inductive Language where
  | en
  | ru
  deriving DecidableEq, Repr

instance : Named Language where
  all := [.en, .ru]
  name
    | .en => "en"
    | .ru => "ru"

namespace Language

def standard : Language := .ru

instance : Inhabited Language := ⟨standard⟩

end Language

theorem ofName?_name_language (language : Language) :
    Named.ofName? (Named.name language) = some language := by
  cases language <;> decide

namespace Message

def wordBound : Nat := 0x10000000000000000

/-- The argument that follows an opening brace and the rest after the closing one, or none when no
argument is named there. -/
def placeholder? (arguments : List String) (text : List Char) : Option (List Char × List Char) :=
  match text.dropWhile (· != '}') with
  | [] => none
  | _ :: rest =>
    match Text.boundedNatural? wordBound (text.takeWhile (· != '}')) with
    | some index => arguments[index]?.map fun argument => (argument.toList, rest)
    | none => none

theorem placeholder?_rest_length {arguments : List String} {text argument rest : List Char}
    (found : placeholder? arguments text = some (argument, rest)) : rest.length < text.length := by
  unfold placeholder? at found
  split at found
  · simp at found
  · rename_i closing after split_eq
    have shorter : after.length < text.length := by
      have := (List.dropWhile_suffix (l := text) (· != '}')).length_le
      rw [split_eq] at this
      simp at this
      omega
    split at found
    · rename_i index _
      cases lookup : arguments[index]? with
      | none => simp [lookup] at found
      | some value =>
        simp [lookup] at found
        obtain ⟨_, rfl⟩ := found
        exact shorter
    · simp at found

def formatChars (arguments : List String) : List Char → List Char
  | [] => []
  | char :: text =>
    if char = '{' then
      match found : placeholder? arguments text with
      | some (argument, rest) =>
        have := placeholder?_rest_length found
        argument ++ formatChars arguments rest
      | none => '{' :: formatChars arguments text
    else char :: formatChars arguments text
termination_by text => text.length

def format (template : String) (arguments : List String) : String :=
  String.ofList (formatChars arguments template.toList)

end Message

end BslLint
