import BslLint.Proofs.Check.Extent
import BslLint.Proofs.Items
import BslLint.Proofs.Pattern.Names
import BslLint.Proofs.Pattern.Parts
import BslLint.Proofs.Source.Tokens
import Mathlib.Data.List.Nodup

/-! Which calls are reported as modal. A method of a form counts when it is called through an object, a global method
when it is not, and nothing else on a line counts. -/

set_option autoImplicit false

namespace BslLint.ModalWindow

open Pattern (IsMatch FindsAll)
open Source Text

def Called (name : Span) : Prop :=
  ∃ arguments, Leads name.after '(' arguments

def ThroughObject (name : Span) : Prop :=
  ∃ object, Leads name.before '.' object

def Lists (methods : List (String × String)) (name : Span) (replacement : String) : Prop :=
  ∃ method, (method, replacement) ∈ methods ∧ lowercase method.toList = lowercase name.chars

inductive ModalCall (name : Span) (replacement : String) : Prop where
  | form : Called name → ThroughObject name → Lists formMethods name replacement → ModalCall name replacement
  | global : Called name → ¬ThroughObject name → Lists globalMethods name replacement → ModalCall name replacement

/-- A global method that is called through an object, or a method of a form that is called without one. -/
inductive Misplaced (name : Span) : Prop where
  | global {replacement : String} : ThroughObject name → Lists globalMethods name replacement → Misplaced name
  | form {replacement : String} : ¬ThroughObject name → Lists formMethods name replacement → Misplaced name

theorem isCalled_iff {name : Span} : isCalled name = true ↔ Called name := by
  simp only [Called, leads_iff, isCalled, beq_iff_eq, List.head?_eq_some_iff]

theorem isMember_iff {name : Span} : isMember name = true ↔ ThroughObject name := by
  simp only [ThroughObject, leads_iff, isMember, beq_iff_eq, List.head?_eq_some_iff]

def folded (method : String × String) : List Char :=
  lowercase method.1.toList

theorem nodup_formMethods : (formMethods.map folded).Nodup := by
  decide +kernel

theorem nodup_globalMethods : (globalMethods.map folded).Nodup := by
  decide +kernel

theorem disjoint_methods : ∀ method ∈ formMethods.map folded, method ∉ globalMethods.map folded := by
  decide +kernel

theorem replacementIn_eq_some_iff {methods : List (String × String)} (distinct : (methods.map folded).Nodup)
    {name : Span} {replacement : String} :
    replacementIn methods name.chars = some replacement ↔ Lists methods name replacement := by
  unfold replacementIn Lists
  rw [Option.map_eq_some_iff]
  constructor
  · rintro ⟨⟨method, replacement⟩, found, rfl⟩
    exact ⟨method, List.mem_of_find?_eq_some found, by simpa using List.find?_some found⟩
  · rintro ⟨method, listed, same⟩
    refine ⟨(method, replacement), ?_, rfl⟩
    obtain ⟨first, found⟩ : ∃ first, (methods.find? fun entry =>
        lowercase entry.1.toList == lowercase name.chars) = some first := by
      rw [← Option.isSome_iff_exists, List.find?_isSome]
      exact ⟨_, listed, beq_iff_eq.mpr same⟩
    have matched : folded first = lowercase name.chars := by
      simpa [folded] using List.find?_some found
    rw [found, List.inj_on_of_nodup_map distinct (List.mem_of_find?_eq_some found) listed (matched.trans same.symm)]

theorem replacement?_eq_some_iff {name : Span} {replacement : String} : replacement? name = some replacement ↔
    ThroughObject name ∧ Lists formMethods name replacement ∨
      ¬ThroughObject name ∧ Lists globalMethods name replacement := by
  rw [replacement?, ← isMember_iff]
  split
  · rename_i member
    simp [replacementIn_eq_some_iff nodup_formMethods, member]
  · rename_i global
    simp [replacementIn_eq_some_iff nodup_globalMethods, global]

theorem checkName_eq_some_iff {number : Nat} {name : Span} {finding : Finding} :
    checkName number name = some finding ↔
      ∃ replacement, ModalCall name replacement ∧ finding = name.finding number [name.text, replacement] := by
  unfold checkName
  split
  · rename_i called
    have called := isCalled_iff.mp called
    rw [Option.map_eq_some_iff]
    constructor
    · rintro ⟨replacement, found, rfl⟩
      refine ⟨replacement, ?_, rfl⟩
      rcases replacement?_eq_some_iff.mp found with ⟨member, listed⟩ | ⟨global, listed⟩
      · exact .form called member listed
      · exact .global called global listed
    · rintro ⟨replacement, call, rfl⟩
      refine ⟨replacement, replacement?_eq_some_iff.mpr ?_, rfl⟩
      cases call with
      | form _ member listed => exact .inl ⟨member, listed⟩
      | global _ global listed => exact .inr ⟨global, listed⟩
  · rename_i other
    refine iff_of_false nofun ?_
    rintro ⟨_, call, _⟩
    cases call with
    | form called => exact other (isCalled_iff.mpr called)
    | global called => exact other (isCalled_iff.mpr called)

theorem Misplaced.not_modalCall {name : Span} (misplaced : Misplaced name) (replacement : String) :
    ¬ModalCall name replacement := by
  -- No name is on both lists.
  have apart {first second : String} : Lists formMethods name first → Lists globalMethods name second → False := by
    rintro ⟨method, listed, same⟩ ⟨other, listedOther, sameOther⟩
    refine disjoint_methods _ (List.mem_map_of_mem listed) ?_
    rw [show folded (method, first) = folded (other, second) from same.trans sameOther.symm]
    exact List.mem_map_of_mem listedOther
  intro call
  cases misplaced with
  | global member listed =>
    cases call with
    | form _ _ form => exact apart form listed
    | global _ without => exact without member
  | form without listed =>
    cases call with
    | form _ member => exact without member
    | global _ _ global => exact apart listed global

-- The pattern for calls. It captures a point in front of a name, with the white space behind it, and the name.
def callPattern : Pattern :=
  .inTurn (.repeated (.marked (.sequence (.mark '.') .blanks)) 0 (some 1) true) [namePattern, .blanks, .mark '(']

theorem ofText?_callPattern : Pattern.ofText? "(\\.\\s*)?([\\p{L}_]\\w*)\\s*\\(".toList = some callPattern := by
  decide +kernel

structure Call where
  before : List Char
  point : List Char
  chars : List Char
  gap : List Char
  arguments : List Char
  isPoint : point = [] ∨ ∃ gap, isBlank gap = true ∧ point = '.' :: gap
  starts : ∃ first, chars.head? = some first ∧ isNameStart first = true
  word : ∀ char ∈ chars, isWord char = true
  blank : isBlank gap = true

namespace Call

def span (call : Call) : Span :=
  ⟨call.before, call.point ++ (call.chars ++ (call.gap ++ ['('])), call.arguments⟩

def name (call : Call) : Span :=
  ⟨call.point.reverse ++ call.before, call.chars, call.gap ++ '(' :: call.arguments⟩

/-- What replaces the method. The point tells which of the lists is asked. -/
def replacement? (call : Call) : Option String :=
  replacementIn (if call.point = [] then globalMethods else formMethods) call.chars

variable (call : Call)

theorem line_name : call.name.line = call.span.line := by
  simp [name, span, Span.line]

theorem leads_arguments : Leads call.name.after '(' call.arguments :=
  ⟨by decide, call.gap, call.blank, rfl⟩

theorem leads_before (some : call.point ≠ []) : Leads call.name.before '.' call.before := by
  obtain ⟨gap, blank, point⟩ := call.isPoint.resolve_left some
  refine ⟨by decide, gap.reverse, by simpa [isBlank] using blank, ?_⟩
  simp [name, point]

theorem stop_span : call.span.stop = call.name.stop + call.gap.length + 1 := by
  simp only [span, name, Span.stop, List.length_append, List.length_reverse, List.length_singleton]
  omega

theorem start_name : call.name.start = call.span.start + call.point.length := by
  simp only [span, name, Span.start, List.length_append, List.length_reverse]
  omega

theorem start_lt_stop : call.span.start < call.span.stop := by
  have stop := call.stop_span
  have start := call.start_name
  have := call.name.start_le_stop
  omega

theorem stop_eq {call other : Call} (same : call.span.line = other.span.line)
    (arguments : call.arguments = other.arguments) : call.span.stop = other.span.stop := by
  have ends (call : Call) : call.span.stop + call.arguments.length = call.span.line.length := by
    simp only [Span.stop, Span.line, span, List.length_append, List.length_reverse]
  have first := ends call
  rw [same, arguments, ← ends other] at first
  exact Nat.add_right_cancel first

theorem stops_name : ∀ char ∈ call.name.after.head?, isWord char = false := by
  intro char first
  rcases isSpace_or_eq_of_head? call.blank first with space | rfl
  · exact isWord_of_isSpace space
  · decide

-- A point or white space behind one is no part of a word.
theorem point_eq_nil (word : ∃ char ∈ call.name.before.head?, isWord char = true) : call.point = [] := by
  by_contra some
  obtain ⟨char, first, isWord⟩ := word
  obtain ⟨_, gap, blank, precedes⟩ := call.leads_before some
  rw [precedes] at first
  rcases isSpace_or_eq_of_head? blank first with space | rfl
  · rw [isWord_of_isSpace space] at isWord
    cases isWord
  · revert isWord
    decide

theorem getElem?_first : ∃ first, call.span.line[call.name.start]? = some first ∧ isNameStart first = true := by
  obtain ⟨first, head, starts⟩ := call.starts
  have nonempty : 0 < call.name.chars.length := List.length_pos_iff.mpr (List.ne_nil_of_mem (List.mem_of_head? head))
  have there := call.name.getElem?_line nonempty
  rw [Nat.add_zero, line_name, ← List.head?_eq_getElem?] at there
  exact ⟨first, there.trans head, starts⟩

theorem getElem?_point {column : Nat} (after : call.span.start ≤ column) (before : column < call.name.start) :
    ∃ char, call.span.line[column]? = some char ∧ (char = '.' ∨ isSpace char = true) := by
  obtain ⟨offset, rfl⟩ := Nat.exists_eq_add_of_le after
  have inside : offset < call.point.length := by
    rw [start_name] at before
    omega
  have within : offset < call.span.chars.length := Nat.lt_of_lt_of_le inside (by simp [span])
  have there := call.span.getElem?_line within
  rw [span, List.getElem?_append_left inside] at there
  obtain ⟨char, found⟩ : ∃ char, call.point[offset]? = some char := ⟨_, List.getElem?_eq_getElem inside⟩
  refine ⟨char, there.trans found, ?_⟩
  have mem := List.mem_of_getElem? found
  rcases call.isPoint with none | ⟨gap, blank, point⟩
  · simp [none] at mem
  · rw [point] at mem
    exact (List.mem_cons.mp mem).imp_right (isSpace_of_mem_blank blank)

theorem getElem?_after (offset : Nat) :
    call.span.line[call.name.stop + offset]? = (call.gap ++ '(' :: call.arguments)[offset]? := by
  rw [← line_name, ← List.getElem?_drop, ← Span.after_eq, name]

theorem getElem?_gap {column : Nat} (after : call.name.stop ≤ column) (before : column + 1 < call.span.stop) :
    ∃ char, call.span.line[column]? = some char ∧ isSpace char = true := by
  obtain ⟨offset, rfl⟩ := Nat.exists_eq_add_of_le after
  have inside : offset < call.gap.length := by
    rw [stop_span] at before
    omega
  obtain ⟨char, found⟩ : ∃ char, call.gap[offset]? = some char := ⟨_, List.getElem?_eq_getElem inside⟩
  refine ⟨char, ?_, isSpace_of_mem_blank call.blank (List.mem_of_getElem? found)⟩
  rw [getElem?_after, List.getElem?_append_left inside, found]

theorem getElem?_mark : call.span.line[call.name.stop + call.gap.length]? = some '(' := by
  rw [getElem?_after, List.getElem?_append_right (Nat.le_refl _), Nat.sub_self, List.getElem?_cons_zero]

/-- The parenthesis of a call stands in front of the point of the next one. -/
theorem stop_le_start {first second : Call} (same : first.span.line = second.span.line)
    (ahead : first.name.stop ≤ second.name.start) : first.span.stop ≤ second.span.start := by
  by_contra reached
  have stop := first.stop_span
  rcases Nat.lt_or_ge (first.name.stop + first.gap.length) second.name.start with within | behind
  · -- the parenthesis would be the point or white space
    obtain ⟨char, found, other⟩ := second.getElem?_point (by omega) within
    rw [← same, first.getElem?_mark] at found
    cases found
    revert other
    decide
  · -- the name would start with the parenthesis or white space
    obtain ⟨letter, found, starts⟩ := second.getElem?_first
    rw [← same] at found
    rcases Nat.lt_or_eq_of_le behind with inside | last
    · obtain ⟨char, foundToo, space⟩ := first.getElem?_gap ahead (by omega)
      cases found.symm.trans foundToo
      rw [isSpace_of_isNameStart starts] at space
      cases space
    · rw [last, first.getElem?_mark] at found
      cases found
      revert starts
      decide

end Call

theorem isMatch_callPattern_iff {part : Span} : IsMatch callPattern part ↔ ∃ call : Call, call.span = part := by
  have divided (before chars after : List Char) : IsMatch callPattern ⟨before, chars, after⟩ ↔
      (∃ first rest gap, ((isNameStart first = true ∧ ∀ char ∈ rest, isWord char = true) ∧ isBlank gap = true) ∧
        chars = first :: (rest ++ (gap ++ ['(']))) ∨
      ∃ space, isBlank space = true ∧ ∃ first rest gap,
        ((isNameStart first = true ∧ ∀ char ∈ rest, isWord char = true) ∧ isBlank gap = true) ∧
        chars = '.' :: (space ++ first :: (rest ++ (gap ++ ['(']))) := by
    simp [callPattern, namePattern, Pattern.runOf, Pattern.isMatch_inTurn, Pattern.MatchInTurn,
      Pattern.isMatch_optional, Pattern.isMatch_marked, Pattern.isMatch_sequence, Pattern.isMatch_mark,
      Pattern.isMatch_blanks, Pattern.isMatch_charIn, Pattern.isMatch_repeated, contains_nameStarts,
      Pattern.CharSet.contains_words]
  have word {first : Char} {rest : List Char} (starts : isNameStart first = true)
      (all : ∀ char ∈ rest, isWord char = true) : ∀ char ∈ first :: rest, isWord char = true :=
    List.forall_mem_cons.mpr ⟨isWord_of_isNameStart starts, all⟩
  rw [divided]
  constructor
  · rintro (⟨first, rest, gap, ⟨⟨starts, all⟩, blank⟩, chars⟩ |
      ⟨space, visible, first, rest, gap, ⟨⟨starts, all⟩, blank⟩, chars⟩)
    · refine ⟨⟨part.before, [], first :: rest, gap, part.after, .inl rfl, ⟨first, rfl, starts⟩, word starts all, blank⟩, ?_⟩
      rw [Call.span, List.nil_append, List.cons_append, ← chars]
    · refine ⟨⟨part.before, '.' :: space, first :: rest, gap, part.after, .inr ⟨space, visible, rfl⟩,
        ⟨first, rfl, starts⟩, word starts all, blank⟩, ?_⟩
      rw [Call.span, List.cons_append, List.cons_append, ← chars]
  · rintro ⟨call, rfl⟩
    obtain ⟨first, head, starts⟩ := call.starts
    obtain ⟨rest, chars⟩ := List.head?_eq_some_iff.mp head
    have all : ∀ char ∈ rest, isWord char = true := fun char mem => call.word char (by simp [chars, mem])
    rcases call.isPoint with none | ⟨space, blank, point⟩
    · left
      exact ⟨first, rest, call.gap, ⟨⟨starts, all⟩, call.blank⟩, by simp [Call.span, none, chars]⟩
    · right
      exact ⟨space, blank, first, rest, call.gap, ⟨⟨starts, all⟩, call.blank⟩, by simp [Call.span, point, chars]⟩

-- The calls of a line are its called names, each with the point that it is reached by.
structure Calls (line : List Char) (calls : List Call) : Prop where
  called : calls.map Call.name = (names line).filter isCalled
  points : ∀ call ∈ calls, call.point = [] ↔ ¬ThroughObject call.name

theorem exists_call {line : List Char} {name : Span} (mem : name ∈ names line) (called : isCalled name = true) :
    ∃ call : Call, call.name = name ∧ (call.point = [] ↔ ¬ThroughObject call.name) := by
  obtain ⟨arguments, _, gap, blank, follows⟩ := isCalled_iff.mp called
  obtain ⟨run, _, isName⟩ := mem_names_iff.mp mem
  have word (char : Char) (inside : char ∈ name.chars) := isWord_of_mem_names mem inside
  obtain ⟨before, chars, after⟩ := name
  dsimp only at follows word
  subst follows
  by_cases through : ThroughObject ⟨before, chars, gap ++ '(' :: arguments⟩
  · obtain ⟨object, visible, space, blankSpace, precedes⟩ := through
    dsimp only at precedes
    subst precedes
    refine ⟨⟨object, '.' :: space.reverse, chars, gap, arguments, .inr ⟨_, ?_, rfl⟩, isName.starts, word, blank⟩,
      ?_, ?_⟩
    · simpa [isBlank] using blankSpace
    · simp [Call.name]
    · simpa [Call.name] using ⟨object, visible, space, blankSpace, rfl⟩
  · exact ⟨⟨before, [], chars, gap, arguments, .inl rfl, isName.starts, word, blank⟩, by simp [Call.name],
      by simpa [Call.name] using through⟩

theorem exists_calls (line : List Char) : ∃ calls, Calls line calls := by
  obtain ⟨calls, called, points⟩ := exists_map_eq_of_forall fun name (mem : name ∈ (names line).filter isCalled) =>
    exists_call (List.mem_filter.mp mem).1 (List.mem_filter.mp mem).2
  exact ⟨calls, called, points⟩

namespace Calls

variable {line : List Char} {calls : List Call}

theorem mem_names (isCalls : Calls line calls) {call : Call} (mem : call ∈ calls) : call.name ∈ names line := by
  have known := List.mem_map_of_mem (f := Call.name) mem
  rw [isCalls.called] at known
  exact (List.mem_filter.mp known).1

theorem line_span (isCalls : Calls line calls) {call : Call} (mem : call ∈ calls) : call.span.line = line := by
  rw [← call.line_name]
  exact ((names_placed line).of_mem (isCalls.mem_names mem)).1

theorem placed (isCalls : Calls line calls) : Placed line 0 (calls.map Call.span) := by
  have ordered : (calls.map Call.name).Pairwise fun left right => left.stop ≤ right.start := by
    rw [isCalls.called]
    exact ((names_placed line).pairwise.imp And.left).filter isCalled
  refine .of_pairwise ?_ ?_
  · simpa using fun call mem => ⟨isCalls.line_span mem, by simp [Call.span]⟩
  · rw [List.pairwise_map] at ordered ⊢
    refine ordered.imp_of_mem fun {first second} mem memToo ahead => ?_
    exact Call.stop_le_start ((isCalls.line_span mem).trans (isCalls.line_span memToo).symm) ahead

theorem start_le (isCalls : Calls line calls) {call other : Call} (mem : call ∈ calls)
    (ahead : call.name.start ≤ other.name.start)
    (starts : call.name = other.name ∨ ∃ char ∈ other.name.before.head?, isWord char = true) :
    call.span.start ≤ other.span.start := by
  have within := call.start_name
  have ownStart := other.start_name
  by_cases none : other.point = []
  · rw [none, List.length_nil] at ownStart
    omega
  · rcases starts with same | word
    · -- both begin with the same point
      have through : ThroughObject call.name := same ▸ ⟨_, other.leads_before none⟩
      have some : call.point ≠ [] := fun none => (isCalls.points call mem).mp none through
      have same : call.before = other.before := (call.leads_before some).unique (same ▸ other.leads_before none)
      exact Nat.le_of_eq (congrArg List.length same)
    · exact absurd (other.point_eq_nil word) none

/-- A match may start within a word. It captures the end of a name then, and no point. -/
theorem covers (isCalls : Calls line calls) (other : Call) (own : other.span.line = line) : ∃ call ∈ calls,
    call.span.start ≤ other.span.start ∧ other.span.start < call.span.stop ∧ other.span.stop = call.span.stop := by
  obtain ⟨name, known, after, ahead, starts⟩ :=
    exists_name (other.line_name.trans own) other.starts other.word other.stops_name
  have called : isCalled name = true := isCalled_iff.mpr ⟨other.arguments, after ▸ other.leads_arguments⟩
  obtain ⟨call, mem, rfl⟩ : ∃ call ∈ calls, call.name = name := by
    rw [← List.mem_map, isCalls.called, List.mem_filter]
    exact ⟨known, called⟩
  have arguments : call.arguments = other.arguments := call.leads_arguments.unique (after ▸ other.leads_arguments)
  have sameStop : other.span.stop = call.span.stop :=
    Call.stop_eq (own.trans (isCalls.line_span mem).symm) arguments.symm
  exact ⟨call, mem, isCalls.start_le mem ahead starts, sameStop ▸ other.start_lt_stop, sameStop⟩

theorem findsAll (isCalls : Calls line calls) : FindsAll callPattern (.first line) (calls.map Call.span) := by
  refine .of_covering isCalls.placed ?_ ?_
  · simpa using fun call _ => isMatch_callPattern_iff.mpr ⟨call, rfl⟩
  · intro part own matched
    obtain ⟨other, rfl⟩ := isMatch_callPattern_iff.mp matched
    simpa using isCalls.covers other own

theorem filterMap_checkName (isCalls : Calls line calls) (number : Nat) :
    (names line).filterMap (checkName number) = calls.filterMap fun call =>
      call.replacement?.map fun replacement => call.name.finding number [call.name.text, replacement] := by
  have considered : (names line).filterMap (checkName number) = ((names line).filter isCalled).filterMap fun name =>
      (replacement? name).map fun replacement => name.finding number [name.text, replacement] := by
    rw [List.filterMap_filter]
    rfl
  rw [considered, ← isCalls.called, List.filterMap_map]
  refine List.filterMap_congr fun call mem => ?_
  have same : replacement? call.name = call.replacement? := by
    have point := isCalls.points call mem
    rw [← isMember_iff] at point
    unfold ModalWindow.replacement? Call.replacement?
    cases member : isMember call.name with
    | true => rw [if_pos rfl, if_neg (by simp [point, member])]; rfl
    | false => rw [if_neg Bool.false_ne_true, if_pos (by simp [point, member])]; rfl
  rw [Function.comp_apply, same]

end Calls

/-- Findings that report the modal calls of a document, in its order. -/
structure ReportsCalls (document : Document) (findings : List Finding) : Prop where
  calls : ∀ finding, finding ∈ findings ↔ ∃ number line run name replacement,
    document.lines[number]? = some line ∧ WordRun (maskedCode line) run ∧ NameOf run name ∧
      ModalCall name replacement ∧ finding = name.finding number [name.text, replacement]
  ordered : findings.Pairwise fun earlier later => earlier.range.Precedes later.range
  silent : ∀ {number : Nat} {line : List Char} {run name : Span}, document.lines[number]? = some line →
    WordRun (maskedCode line) run → NameOf run name → Misplaced name →
      ∀ finding ∈ findings, finding.range.start ≠ ⟨number, name.start⟩
  /-- On each line they are what a scan with the pattern for calls finds, as far as the captured names are listed. -/
  scanned : ∃ pattern, Pattern.ofText? "(\\.\\s*)?([\\p{L}_]\\w*)\\s*\\(".toList = some pattern ∧
    ∀ {number : Nat} {line : List Char}, document.lines[number]? = some line → ∃ calls : List Call,
      FindsAll pattern (.first (maskedCode line)) (calls.map Call.span) ∧
        findings.filter (fun finding => finding.range.start.line = number) = calls.filterMap fun call =>
          call.replacement?.map fun replacement => call.name.finding number [call.name.text, replacement]

theorem mem_check_iff {rule : ModalWindow} {document : Document} {finding : Finding} :
    finding ∈ Rule.check rule document ↔ ∃ number line name replacement, document.lines[number]? = some line ∧
      name ∈ names (maskedCode line) ∧ ModalCall name replacement ∧
        finding = name.finding number [name.text, replacement] := by
  have opened : Rule.check rule document = checkLines document checkLine := rfl
  simp only [opened, mem_checkLines, checkLine, List.mem_filterMap, checkName_eq_some_iff]
  constructor
  · rintro ⟨number, line, there, name, known, replacement, call, same⟩
    exact ⟨number, line, name, replacement, there, known, call, same⟩
  · rintro ⟨number, line, name, replacement, there, known, call, same⟩
    exact ⟨number, line, there, name, known, replacement, call, same⟩

/-- A modal call is reported where it is one, whatever stands around it on the line. -/
theorem check_reports_calls (rule : ModalWindow) (document : Document) :
    ReportsCalls document (Rule.check rule document) where
  calls finding := by
    simp only [mem_check_iff, mem_names_iff]
    constructor
    · rintro ⟨number, line, name, replacement, there, ⟨run, isRun, isName⟩, call, same⟩
      exact ⟨number, line, run, name, replacement, there, isRun, isName, call, same⟩
    · rintro ⟨number, line, run, name, replacement, there, isRun, isName, call, same⟩
      exact ⟨number, line, name, replacement, there, ⟨run, isRun, isName⟩, call, same⟩
  ordered := (checkLines_along document checkLine_along).ordered
  silent {number line run name} there isRun isName misplaced finding known start := by
    obtain ⟨index, other, found, replacement, thereOther, memOther, call, rfl⟩ := mem_check_iff.mp known
    obtain ⟨rfl, column⟩ := Position.mk.inj start
    cases there.symm.trans thereOther
    -- What is reported in the column of a name is that name.
    have mem := mem_names_iff.mpr ⟨run, isRun, isName⟩
    rw [(names_placed _).eq_of_column memOther mem (.inl column)] at call
    exact misplaced.not_modalCall replacement call
  scanned := by
    refine ⟨callPattern, ofText?_callPattern, fun {number line} there => ?_⟩
    obtain ⟨calls, isCalls⟩ := exists_calls (maskedCode line)
    refine ⟨calls, isCalls.findsAll, ?_⟩
    have onLine : (Rule.check rule document).filter (fun finding => finding.range.start.line = number) =
        checkLine number line := filter_checkLines checkLine_along there
    rw [onLine, checkLine, isCalls.filterMap_checkName]

end BslLint.ModalWindow
