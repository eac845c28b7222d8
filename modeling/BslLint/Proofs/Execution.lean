/-! Executions: steps one after the other, with what each of them shows. -/

set_option autoImplicit false

namespace BslLint

variable {World Event : Type}

inductive Execution (Step : World → Event → World → Prop) : World → List Event → World → Prop where
  | done {world : World} : Execution Step world [] world
  | next {world next final : World} {event : Event} {events : List Event} : Step world event next →
      Execution Step next events final → Execution Step world (event :: events) final

namespace Execution

variable {Step : World → Event → World → Prop} {start middle final : World} {before after events : List Event}

theorem split (run : Execution Step start (before ++ after) final) :
    ∃ middle, Execution Step start before middle ∧ Execution Step middle after final := by
  induction before generalizing start with
  | nil => exact ⟨start, .done, run⟩
  | cons event before ih =>
    cases run with
    | next stepped rest =>
      obtain ⟨middle, first, second⟩ := ih rest
      exact ⟨middle, .next stepped first, second⟩

theorem append (first : Execution Step start before middle) (second : Execution Step middle after final) :
    Execution Step start (before ++ after) final := by
  induction first with
  | done => exact second
  | next stepped _ ih => exact .next stepped (ih second)

/-- What holds at the start and is kept by each step holds at the end, of all that has happened. -/
theorem induct (holds : List Event → World → Prop)
    (kept : ∀ {past world event next}, holds past world → Step world event next → holds (past ++ [event]) next)
    (run : Execution Step start events final) (past : List Event) (base : holds past start) :
    holds (past ++ events) final := by
  induction run generalizing past with
  | done => simpa using base
  | next stepped _ ih => simpa using ih _ (kept base stepped)

end Execution

end BslLint
