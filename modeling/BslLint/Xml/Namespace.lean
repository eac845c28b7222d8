import BslLint.Xml.Reader

/-! Namespaces of XML names. Every prefix is declared, and no attribute stands twice in a tag. -/

set_option autoImplicit false

namespace BslLint.Xml

def xmlSpace : List Char :=
  "http://www.w3.org/XML/1998/namespace".toList

def declarationSpace : List Char :=
  "http://www.w3.org/2000/xmlns/".toList

/-- The prefixes in scope with their namespaces; the empty prefix is the default one. -/
abbrev Scope := List (List Char × List Char)

def declared? (entry : Attribute) : Option (List Char) :=
  if entry.name.label = "xmlns".toList then some entry.name.base
  else if entry.name.label = [] ∧ entry.name.base = "xmlns".toList then some []
  else none

/-- Whether a prefix may stand for a namespace. The prefix of the language itself has one namespace, which
no other prefix has, and the namespace of declarations has no prefix. -/
def mayDeclare (label value : List Char) : Bool :=
  value != declarationSpace && ((label == "xml".toList) == (value == xmlSpace))

def declarations (attributes : List Attribute) : Scope :=
  attributes.filterMap fun entry => (declared? entry).map fun label => (label, entry.value)

def lookup? (scope : Scope) (label : List Char) : Option (List Char) :=
  (scope.find? fun entry => entry.1 == label).map Prod.snd

/-- The namespace of an attribute. Without a prefix it has none. -/
def attributeSpace? (scope : Scope) (label : List Char) : Option (List Char) :=
  if label = [] then some [] else lookup? scope label

def hasDistinct {Item : Type} [BEq Item] : List Item → Bool
  | [] => true
  | item :: rest => !rest.contains item && hasDistinct rest

/-- Whether the attributes of a tag have distinct names, prefixes being replaced by namespaces. -/
def attributesDistinct (scope : Scope) (attributes : List Attribute) : Bool :=
  let plain := attributes.filter fun entry => (declared? entry).isNone
  match plain.mapM fun entry =>
      (attributeSpace? scope entry.name.label).map fun space => (space, entry.name.base) with
  | some names => hasDistinct names
  | none => false

mutual

def Node.isNamed (scope : Scope) : Node → Bool
  | .element name attributes children =>
    let added := declarations attributes
    let scope := added ++ scope
    added.all (fun entry => mayDeclare entry.1 entry.2) && hasDistinct (added.map Prod.fst) &&
      name.label != "xmlns".toList && (name.label == [] || (lookup? scope name.label).isSome) &&
      attributesDistinct scope attributes && allNamed scope children
  | .text _ | .comment | .instruction => true

def allNamed (scope : Scope) : List Node → Bool
  | [] => true
  | node :: rest => Node.isNamed scope node && allNamed scope rest

end

def ofText? (text : List Char) : Option Node := do
  let root ← readDocument? text
  if root.isNamed [("xml".toList, xmlSpace)] then return root else none

end BslLint.Xml
