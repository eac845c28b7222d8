import BslLint.Classification
import BslLint.Path

/-! Source documents and their lines. -/

set_option autoImplicit false

namespace BslLint

inductive FileType where
  | bsl
  | os
  deriving DecidableEq, Repr

instance : Named FileType where
  all := [.bsl, .os]
  name
    | .bsl => "bsl"
    | .os => "os"

namespace FileType

def ofPath? (path : Path) : Option FileType :=
  if path.hasExtension "bsl" then some .bsl
  else if path.hasExtension "os" then some .os
  else none

def scope : FileType → Scope
  | .bsl => .bsl
  | .os => .os

end FileType

/-- A document to check. Its content has no byte order mark. -/
structure Document where
  path : Path
  fileType : FileType
  content : List Char
  deriving DecidableEq, Repr

namespace Document

def byteOrderMark : Char := '\uFEFF'

def ofText (path : Path) (fileType : FileType) (text : String) : Document :=
  match text.toList with
  | char :: rest => if char = byteOrderMark then ⟨path, fileType, rest⟩ else ⟨path, fileType, char :: rest⟩
  | [] => ⟨path, fileType, []⟩

/-- The pieces of a text that line feeds end, each with whether a line feed ended it. -/
def segments : List Char → List (List Char × Bool)
  | [] => []
  | char :: rest =>
    if char = '\n' then ([], true) :: segments rest
    else match segments rest with
      | (piece, ended) :: pieces => (char :: piece, ended) :: pieces
      | [] => [([char], false)]

def dropReturn (line : List Char) : List Char :=
  if line.getLast? = some '\r' then line.dropLast else line

/-- A line without what ends it: two carriage returns before a line feed, one at the end of the text. -/
def lineOf (segment : List Char × Bool) : List Char :=
  if segment.2 then dropReturn (dropReturn segment.1) else dropReturn segment.1

def linesOf (content : List Char) : List (List Char) :=
  (segments content).map lineOf

def lines (document : Document) : List (List Char) :=
  linesOf document.content

def number (first : Nat) (lines : List (List Char)) : List (Nat × List Char) :=
  match lines with
  | [] => []
  | line :: rest => (first, line) :: number (first + 1) rest

def numberedLines (document : Document) : List (Nat × List Char) :=
  number 0 document.lines

theorem segments_append_newline (before after : List Char) :
    segments (before ++ '\n' :: after) = segments (before ++ ['\n']) ++ segments after := by
  induction before with
  | nil => simp [segments]
  | cons char rest ih =>
    simp only [List.cons_append, segments]
    split
    · simp [ih]
    · rw [ih]
      cases ends : segments (rest ++ ['\n']) with
      | cons head tail => simp
      | nil =>
        cases rest with
        | nil => simp [segments] at ends
        | cons next tail =>
          simp only [List.cons_append, segments] at ends
          split at ends
          · simp at ends
          · split at ends <;> simp at ends

end Document

end BslLint
