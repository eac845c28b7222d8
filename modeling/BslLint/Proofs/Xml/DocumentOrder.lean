import BslLint.Xml.Basic
import Mathlib.Data.List.Lex

/-! Document order. A node of a tree is named by its address, which says for each level what child to go to. An element
comes before what it holds and before all behind it, so that the order of the document is that of the addresses. -/

set_option autoImplicit false

namespace BslLint.Xml.Node

def children : Node → List Node
  | .element _ _ children => children
  | .text _ | .comment | .instruction => []

def at? (node : Node) : List Nat → Option Node
  | [] => some node
  | index :: address => (node.children[index]?).bind fun child => child.at? address

/-- What holds of a node if it holds of its children holds of all nodes. -/
theorem children_induction {motive : Node → Prop} (step : ∀ node, (∀ child ∈ node.children, motive child) → motive node)
    (node : Node) : motive node :=
  step node fun child _ => children_induction step child
termination_by sizeOf node
decreasing_by
  cases node with
  | element name attributes nodes =>
    have smaller := List.sizeOf_lt_of_mem ‹_›
    simp only [Node.children, Node.element.sizeOf_spec] at smaller ⊢
    omega
  | text _ | comment | instruction => contradiction

/-- An element with a name that is asked for, whatever its prefix, stands at an address and holds these nodes. -/
inductive StandsAt (Wanted : List Char → Prop) (root : Node) (address : List Nat) (held : List Node) : Prop where
  | element {name : Name} {attributes : List Attribute} : root.at? address = some (.element name attributes held) →
      Wanted name.base → StandsAt Wanted root address held

structure FirstAt (Wanted : List Char → Prop) (root : Node) (address : List Nat) (held : List Node) : Prop where
  stands : StandsAt Wanted root address held
  first : ∀ earlier < address, ∀ other, ¬StandsAt Wanted root earlier other

section

variable {Wanted : List Char → Prop} {root : Node} {address : List Nat} {held : List Node}

theorem standsAt_nil_iff : StandsAt Wanted root [] held ↔
    ∃ name attributes, root = .element name attributes held ∧ Wanted name.base := by
  constructor
  · rintro ⟨found, isWanted⟩
    cases found
    exact ⟨_, _, rfl, isWanted⟩
  · rintro ⟨name, attributes, rfl, isWanted⟩
    exact .element rfl isWanted

theorem standsAt_cons_iff {index : Nat} : StandsAt Wanted root (index :: address) held ↔
    ∃ child, root.children[index]? = some child ∧ StandsAt Wanted child address held := by
  constructor
  · rintro ⟨found, isWanted⟩
    obtain ⟨child, present, found⟩ := Option.bind_eq_some_iff.mp found
    exact ⟨child, present, .element found isWanted⟩
  · rintro ⟨child, present, found, isWanted⟩
    exact .element (Option.bind_eq_some_iff.mpr ⟨child, present, found⟩) isWanted

theorem StandsAt.unique {other : List Node} (stands : StandsAt Wanted root address held)
    (standsToo : StandsAt Wanted root address other) : held = other := by
  obtain ⟨found, _⟩ := stands
  obtain ⟨foundToo, _⟩ := standsToo
  cases found.symm.trans foundToo
  rfl

theorem FirstAt.unique {other : List Nat} {more : List Node} (first : FirstAt Wanted root address held)
    (firstToo : FirstAt Wanted root other more) : held = more := by
  rcases lt_trichotomy address other with below | rfl | below
  · exact absurd first.stands (firstToo.first address below held)
  · exact first.stands.unique firstToo.stands
  · exact absurd firstToo.stands (first.first other below more)

end

variable {wanted : List Char → Bool} {root : Node} {address : List Nat} {nodes held : List Node}

theorem findAmong?_eq : findAmong? wanted nodes = nodes.findSome? (findElement? wanted) := by
  induction nodes with
  | nil => rw [findAmong?, List.findSome?_nil]
  | cons node rest ih =>
    rw [findAmong?, List.findSome?_cons, ih]
    cases findElement? wanted node <;> rfl

/-- The search looks at a node itself, and then at its children one after the other. -/
theorem findElement?_cases (wanted : List Char → Bool) (root : Node) :
    (∃ held, StandsAt (wanted · = true) root [] held ∧ findElement? wanted root = some held) ∨
      (∀ held, ¬StandsAt (wanted · = true) root [] held) ∧
        findElement? wanted root = root.children.findSome? (findElement? wanted) := by
  simp only [standsAt_nil_iff]
  cases root with
  | element name attributes nodes =>
    rw [findElement?]
    by_cases isWanted : wanted name.base = true
    · exact .inl ⟨nodes, ⟨name, attributes, rfl, isWanted⟩, if_pos isWanted⟩
    · refine .inr ⟨?_, ?_⟩
      · rintro held ⟨_, _, same, found⟩
        cases same
        exact isWanted found
      · rw [if_neg isWanted, findAmong?_eq, Node.children]
  | text _ | comment | instruction =>
    refine .inr ⟨?_, by simp [findElement?, children]⟩
    rintro _ ⟨_, _, same, _⟩
    cases same

theorem not_standsAt_of_none (none : findElement? wanted root = none) (address : List Nat) :
    ¬StandsAt (wanted · = true) root address held := by
  induction address generalizing root with
  | nil =>
    intro stands
    rcases findElement?_cases wanted root with ⟨_, _, found⟩ | ⟨absent, _⟩
    · cases none.symm.trans found
    · exact absent held stands
  | cons index address ih =>
    rw [standsAt_cons_iff]
    rintro ⟨child, present, stands⟩
    rcases findElement?_cases wanted root with ⟨_, _, found⟩ | ⟨_, among⟩
    · cases none.symm.trans found
    · rw [among, List.findSome?_eq_none_iff] at none
      exact ih (none child (List.mem_of_getElem? present)) stands

theorem exists_firstAt (found : findElement? wanted root = some held) :
    ∃ address, FirstAt (wanted · = true) root address held := by
  induction root using children_induction generalizing held with
  | step root ih =>
    rcases findElement?_cases wanted root with ⟨own, stands, same⟩ | ⟨absent, among⟩
    · cases found.symm.trans same
      exact ⟨[], stands, fun earlier below => absurd below (List.not_lt_nil earlier)⟩
    · rw [among, List.findSome?_eq_some_iff] at found
      obtain ⟨before, node, after, shape, found, none⟩ := found
      obtain ⟨address, stands, first⟩ := ih node (shape ▸ by simp) found
      have here : root.children[before.length]? = some node := by simp [shape]
      refine ⟨before.length :: address, standsAt_cons_iff.mpr ⟨node, here, stands⟩, ?_⟩
      rintro (_ | ⟨index, earlier⟩) below other
      · exact absent other
      · rw [standsAt_cons_iff]
        rintro ⟨child, present, standsToo⟩
        rcases List.cons_lt_cons_iff.mp below with earlierChild | ⟨rfl, deeper⟩
        · rw [shape, List.getElem?_append_left earlierChild] at present
          exact not_standsAt_of_none (none child (List.mem_of_getElem? present)) earlier standsToo
        · cases present.symm.trans here
          exact first earlier deeper other standsToo

-- The search finds the first element of its name in document order.
theorem findElement?_eq_some_iff :
    findElement? wanted root = some held ↔ ∃ address, FirstAt (wanted · = true) root address held := by
  refine ⟨exists_firstAt, ?_⟩
  rintro ⟨address, first⟩
  cases found : findElement? wanted root with
  | none => exact absurd first.stands (not_standsAt_of_none found address)
  | some own =>
    obtain ⟨_, firstToo⟩ := exists_firstAt found
    rw [first.unique firstToo]

end BslLint.Xml.Node
