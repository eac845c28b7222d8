import BslLint.Proofs.Source.Segments

/-! Texts that are written in another way: with carriage returns before line feeds, with a byte order mark, and with
empty lines at the end. They have the same lines, and empty ones after them. -/

set_option autoImplicit false

namespace BslLint.Document

-- The same text, with carriage returns before some of its line feeds.
inductive Relined : List Char → List Char → Prop where
  | nil : Relined [] []
  | kept (char : Char) {text other : List Char} : Relined text other → Relined (char :: text) (char :: other)
  | returned {text other : List Char} : Relined text other → Relined ('\n' :: text) ('\r' :: '\n' :: other)

theorem relined_returns (text : List Char) :
    Relined text (text.flatMap fun char => if char = '\n' then ['\r', '\n'] else [char]) := by
  induction text with
  | nil => exact .nil
  | cons char text ih =>
    rw [List.flatMap_cons]
    split
    · rename_i newline
      rw [newline]
      exact .returned ih
    · exact .kept char ih

/-- The same text, written in another way. Empty lines follow only where no line is open. -/
inductive Retouched (content : List Char) : List Char → Prop where
  | of {marks other : List Char} {count : Nat} : marks = [] ∨ marks = [byteOrderMark] →
      count = 0 ∨ content.getLast? = some '\n' → Relined (content ++ List.replicate count '\n') other →
      Retouched content (marks ++ other)

/-- A text without what may be left out: carriage returns, and a byte order mark. -/
structure Bare (content : List Char) : Prop where
  noReturn : '\r' ∉ content
  noMark : content.head? ≠ some byteOrderMark

-- The same piece, perhaps with a carriage return before its line feed.
def RelinedPiece (segment other : List Char × Bool) : Prop :=
  other.2 = segment.2 ∧ (other.1 = segment.1 ∨ segment.2 = true ∧ other.1 = segment.1 ++ ['\r'])

theorem Relined.segments {text other : List Char} (relined : Relined text other) :
    List.Forall₂ RelinedPiece (segments text) (segments other) := by
  induction relined with
  | nil => exact .nil
  | @kept char text other _ ih =>
    unfold Document.segments
    split
    · exact .cons ⟨rfl, .inl rfl⟩ ih
    · -- The character joins the first piece on either side.
      generalize Document.segments text = before at ih ⊢
      generalize Document.segments other = after at ih ⊢
      cases ih with
      | nil => exact .cons ⟨rfl, .inl rfl⟩ .nil
      | cons own ih =>
        obtain ⟨ended, same | ⟨feed, returned⟩⟩ := own
        · exact .cons ⟨ended, .inl (by rw [same])⟩ ih
        · exact .cons ⟨ended, .inr ⟨feed, by rw [returned, List.cons_append]⟩⟩ ih
  | returned _ ih => exact .cons ⟨rfl, .inr ⟨rfl, rfl⟩⟩ ih

theorem dropReturn_of_not_mem {line : List Char} (absent : '\r' ∉ line) : dropReturn line = line := by
  rw [dropReturn, if_neg fun last => absent (List.mem_of_getLast? last)]

theorem RelinedPiece.lineOf {segment other : List Char × Bool} (relined : RelinedPiece segment other)
    (absent : '\r' ∉ segment.1) : lineOf other = lineOf segment := by
  obtain ⟨ended, same | ⟨feed, returned⟩⟩ := relined
  · rw [Document.lineOf, Document.lineOf, ended, same]
  · -- Before a line feed a second carriage return would be dropped, but there is none.
    rw [Document.lineOf, Document.lineOf, ended, feed, returned, if_pos rfl, if_pos rfl, dropReturn_concat,
      dropReturn_of_not_mem absent, dropReturn_of_not_mem absent]

theorem mem_of_mem_segments {content : List Char} {segment : List Char × Bool} (mem : segment ∈ segments content)
    {char : Char} (inside : char ∈ segment.1) : char ∈ content := by
  rw [← flatMap_written_segments content, List.mem_flatMap]
  exact ⟨segment, mem, List.mem_append_left _ inside⟩

theorem Relined.linesOf {text other : List Char} (relined : Relined text other) (absent : '\r' ∉ text) :
    linesOf other = linesOf text := by
  have pieces := relined.segments
  have plain : ∀ segment ∈ Document.segments text, '\r' ∉ segment.1 :=
    fun segment mem inside => absent (mem_of_mem_segments mem inside)
  rw [Document.linesOf, Document.linesOf]
  generalize Document.segments text = before at pieces plain
  generalize Document.segments other = after at pieces
  induction pieces with
  | nil => rfl
  | @cons segment _ _ _ own _ ih =>
    rw [List.map_cons, List.map_cons, own.lineOf (plain segment List.mem_cons_self),
      ih fun other mem => plain other (List.mem_cons_of_mem _ mem)]

theorem segments_replicate (count : Nat) :
    segments (List.replicate count '\n') = List.replicate count ([], true) := by
  induction count with
  | zero => rfl
  | succ count ih => rw [List.replicate_succ, List.replicate_succ, segments, if_pos rfl, ih]

theorem linesOf_append_empty {content : List Char} {count : Nat}
    (closed : count = 0 ∨ content.getLast? = some '\n') :
    linesOf (content ++ List.replicate count '\n') = linesOf content ++ List.replicate count [] := by
  rcases closed with rfl | last
  · rw [List.replicate_zero, List.replicate_zero, List.append_nil, List.append_nil]
  · obtain ⟨before, rfl⟩ := List.getLast?_eq_some_iff.mp last
    rw [linesOf, List.append_assoc, List.singleton_append, segments_append_newline, segments_replicate,
      List.map_append, List.map_replicate]
    rfl

theorem content_ofText (path : Path) (fileType : FileType) (text : String) : (ofText path fileType text).content =
    if text.toList.head? = some byteOrderMark then text.toList.tail else text.toList := by
  unfold ofText
  cases text.toList with
  | nil => rfl
  | cons char rest =>
    simp only [List.head?_cons, Option.some.injEq, List.tail_cons]
    split <;> rfl

theorem Relined.head?_ne {text other : List Char} (relined : Relined text other)
    (noMark : text.head? ≠ some byteOrderMark) : other.head? ≠ some byteOrderMark := by
  cases relined with
  | nil => exact noMark
  | kept char _ => exact noMark
  | returned _ =>
    intro mark
    cases Option.some.inj mark

/-- A text that is written in another way has the same lines, and then empty ones. -/
theorem Retouched.lines {content other : String} (retouched : Retouched content.toList other.toList)
    (bare : Bare content.toList) (path : Path) (fileType : FileType) :
    ∃ count, (ofText path fileType other).lines =
      (ofText path fileType content).lines ++ List.replicate count [] := by
  obtain ⟨text, written⟩ : ∃ text, other.toList = text := ⟨_, rfl⟩
  rw [written] at retouched
  obtain @⟨marks, relinedText, count, marked, closed, relined⟩ := retouched
  have plain : '\r' ∉ content.toList ++ List.replicate count '\n' := by
    rw [List.mem_append, not_or]
    exact ⟨bare.noReturn, fun mem => by cases List.eq_of_mem_replicate mem⟩
  have unmarked : relinedText.head? ≠ some byteOrderMark := by
    refine relined.head?_ne ?_
    cases chars : content.toList with
    | nil =>
      rcases closed with rfl | last
      · simp
      · rw [chars] at last
        cases last
    | cons first rest => simpa [chars] using bare.noMark
  have shown : (ofText path fileType other).content = relinedText := by
    rw [content_ofText, written]
    rcases marked with rfl | rfl
    · rw [List.nil_append, if_neg unmarked]
    · exact if_pos rfl
  refine ⟨count, ?_⟩
  rw [Document.lines, Document.lines, shown, content_ofText, if_neg bare.noMark, relined.linesOf plain,
    linesOf_append_empty closed]

end BslLint.Document
