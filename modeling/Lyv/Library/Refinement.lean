import Lyv.Library.Transition

/-!
# Refinement of one system by another

A step of the concrete system makes at most one change to the abstract one, and
otherwise leaves it as it is.  Every execution then follows an execution of the
abstract system, with the same changes in the same order; what holds of all
abstract executions holds of what the concrete one shows.
-/

namespace Lyv.Library

variable {State Action View Change : Type*}

/-- Each concrete step makes one abstract change, or stutters.  The relation may
depend on the steps taken so far, so that it can carry what they have established. -/
structure Refinement (concrete : System State Action) (abstract : System View Change) where
  change : State → Action → Option Change
  related : History State Action → State → View → Prop
  initial : ∀ state, concrete.initial state → ∃ view, abstract.initial view ∧ related [] state view
  stutter : ∀ history state view action next, related history state view →
    concrete.step state action = some next → change state action = none →
    related ((state, action) :: history) next view
  changes : ∀ history state view action next made, related history state view →
    concrete.step state action = some next → change state action = some made →
    ∃ after, abstract.step view made = some after ∧ related ((state, action) :: history) next after

namespace Refinement

variable {concrete : System State Action} {abstract : System View Change}

/-- The changes that a history makes, the latest first. -/
def changesOf (refinement : Refinement concrete abstract) (history : History State Action) : List Change :=
  history.filterMap fun entry => refinement.change entry.1 entry.2

theorem changesOf_cons_none {refinement : Refinement concrete abstract} {history : History State Action}
    {state : State} {action : Action} (none : refinement.change state action = none) :
    refinement.changesOf ((state, action) :: history) = refinement.changesOf history := by
  simp [changesOf, none]

theorem changesOf_cons_some {refinement : Refinement concrete abstract} {history : History State Action}
    {state : State} {action : Action} {made : Change} (some : refinement.change state action = some made) :
    refinement.changesOf ((state, action) :: history) = made :: refinement.changesOf history := by
  simp [changesOf, some]

/-- Every execution follows one of the abstract system, with the same changes. -/
theorem exists_execution (refinement : Refinement concrete abstract) {history : History State Action}
    {state : State} (execution : Execution concrete history state) :
    ∃ trace view, Execution abstract trace view ∧ refinement.related history state view ∧
      trace.map Prod.snd = refinement.changesOf history := by
  induction execution with
  | start initial =>
    obtain ⟨view, starts, related⟩ := refinement.initial _ initial
    exact ⟨[], view, .start starts, related, rfl⟩
  | @step history state next action _ taken inductionHypothesis =>
    obtain ⟨trace, view, follows, related, same⟩ := inductionHypothesis
    cases made : refinement.change state action with
    | none =>
      refine ⟨trace, view, follows, refinement.stutter _ _ _ _ _ related taken made, ?_⟩
      rw [same, changesOf_cons_none made]
    | some change =>
      obtain ⟨after, changed, related⟩ := refinement.changes _ _ _ _ _ _ related taken made
      refine ⟨(view, change) :: trace, after, follows.step changed, related, ?_⟩
      rw [List.map_cons, same, changesOf_cons_some made]

end Refinement

end Lyv.Library
