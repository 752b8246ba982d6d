import Mathlib.Data.List.Basic

/-!
# Labelled transition systems and guarded executions

A system has initial states and a partial, executable step function.  An
execution carries its own history, the latest step first, so that a property
may speak about what happened before as well as about the state reached.

The rules below reduce a statement about whole executions to one about a single
step.  `Execution.everyState_iff` is the exact form: it turns "the property
holds throughout" into "every step meets the guard", in both directions.
-/

namespace Lyv.Library

/-- A labelled transition system with an executable, partial step function. -/
structure System (State Action : Type*) where
  initial : State → Prop
  step : State → Action → Option State

/-- The steps taken so far, the latest first, each with the state it started from. -/
abbrev History (State Action : Type*) := List (State × Action)

variable {State Action : Type*}

inductive Execution (system : System State Action) : History State Action → State → Prop where
  | start {state : State} : system.initial state → Execution system [] state
  | step {history : History State Action} {state next : State} {action : Action} :
      Execution system history state → system.step state action = some next →
      Execution system ((state, action) :: history) next

/-- What a step is allowed to be, given the steps before it and the state it starts from. -/
abbrev Guard (State Action : Type*) := History State Action → State → Action → Prop

/-- Every step of the history meets the guard. -/
def EveryStep (guard : Guard State Action) : History State Action → Prop
  | [] => True
  | (state, action) :: history => guard history state action ∧ EveryStep guard history

/-- The property holds of every state an execution passes through, its last state included. -/
def EveryState (property : History State Action → State → Prop) :
    History State Action → State → Prop
  | [], state => property [] state
  | (before, action) :: history, state =>
      property ((before, action) :: history) state ∧ EveryState property history before

instance decidableEveryStep (guard : Guard State Action)
    [∀ history state action, Decidable (guard history state action)] :
    (history : History State Action) → Decidable (EveryStep guard history)
  | [] => isTrue trivial
  | (state, action) :: history =>
    have := decidableEveryStep guard history
    inferInstanceAs (Decidable (guard history state action ∧ EveryStep guard history))

theorem EveryStep.and {first second : Guard State Action} {history : History State Action}
    (one : EveryStep first history) (two : EveryStep second history) :
    EveryStep (fun history state action => first history state action ∧ second history state action)
      history := by
  induction history with
  | nil => trivial
  | cons entry history inductionHypothesis =>
    exact ⟨⟨one.1, two.1⟩, inductionHypothesis one.2 two.2⟩

theorem EveryState.last {property : History State Action → State → Prop}
    {history : History State Action} {state : State} (every : EveryState property history state) :
    property history state := by
  cases history with
  | nil => exact every
  | cons entry history => exact every.1

namespace Execution

variable {system : System State Action} {history : History State Action} {state : State}

/-- An invariant kept by every guarded step holds after every guarded execution. -/
theorem invariant {guard : Guard State Action}
    (holds : History State Action → State → Prop)
    (starts : ∀ state, system.initial state → holds [] state)
    (preserved : ∀ history state action next, holds history state → guard history state action →
      system.step state action = some next → holds ((state, action) :: history) next)
    (execution : Execution system history state) (guarded : EveryStep guard history) :
    holds history state := by
  induction execution with
  | start initial => exact starts _ initial
  | step _ taken inductionHypothesis =>
    exact preserved _ _ _ _ (inductionHypothesis guarded.2) guarded.1 taken

/-- An invariant kept by every step, whatever its guard. -/
theorem always (holds : History State Action → State → Prop)
    (starts : ∀ state, system.initial state → holds [] state)
    (preserved : ∀ history state action next, holds history state →
      system.step state action = some next → holds ((state, action) :: history) next)
    (execution : Execution system history state) : holds history state := by
  induction execution with
  | start initial => exact starts _ initial
  | step _ taken inductionHypothesis => exact preserved _ _ _ _ inductionHypothesis taken

/-- An execution is one of every system with the same steps and no fewer beginnings. -/
theorem weaken {other : System State Action} (execution : Execution system history state)
    (initial : ∀ state, system.initial state → other.initial state) (step : other.step = system.step) :
    Execution other history state := by
  induction execution with
  | start starts => exact .start (initial _ starts)
  | step _ taken inductionHypothesis => exact .step inductionHypothesis (step ▸ taken)

/-- The states an execution passes through all have what follows from the invariant. -/
theorem everyState {guard : Guard State Action} {property : History State Action → State → Prop}
    (holds : History State Action → State → Prop)
    (starts : ∀ state, system.initial state → holds [] state)
    (preserved : ∀ history state action next, holds history state → guard history state action →
      system.step state action = some next → holds ((state, action) :: history) next)
    (sound : ∀ history state, holds history state → property history state)
    (execution : Execution system history state) (guarded : EveryStep guard history) :
    EveryState property history state := by
  induction execution with
  | start initial => exact sound _ _ (starts _ initial)
  | step earlier taken inductionHypothesis =>
    have kept := earlier.invariant holds starts preserved guarded.2
    exact ⟨sound _ _ (preserved _ _ _ _ kept guarded.1 taken), inductionHypothesis guarded.2⟩

/-- The steps an execution takes all do what the invariant before them lets them do. -/
theorem everyStep {guard property : Guard State Action} (holds : History State Action → State → Prop)
    (starts : ∀ state, system.initial state → holds [] state)
    (preserved : ∀ history state action next, holds history state → guard history state action →
      system.step state action = some next → holds ((state, action) :: history) next)
    (sound : ∀ history state action next, holds history state → guard history state action →
      system.step state action = some next → property history state action)
    (execution : Execution system history state) (guarded : EveryStep guard history) :
    EveryStep property history := by
  induction execution with
  | start _ => trivial
  | step earlier taken inductionHypothesis =>
    have kept := earlier.invariant holds starts preserved guarded.2
    exact ⟨sound _ _ _ _ kept guarded.1 taken, inductionHypothesis guarded.2⟩

/-- A guard is exact for a property when an invariant that implies the property
is kept by the steps that meet the guard, and a step that misses the guard
leads to a state without the property.  The property then holds throughout an
execution if and only if every step meets the guard. -/
theorem everyState_iff {guard : Guard State Action}
    {property : History State Action → State → Prop}
    (holds : History State Action → State → Prop)
    (starts : ∀ state, system.initial state → holds [] state)
    (preserved : ∀ history state action next, holds history state → guard history state action →
      system.step state action = some next → holds ((state, action) :: history) next)
    (sound : ∀ history state, holds history state → property history state)
    (exact : ∀ history state action next, holds history state →
      system.step state action = some next → property ((state, action) :: history) next →
      guard history state action)
    (execution : Execution system history state) :
    EveryState property history state ↔ EveryStep guard history := by
  refine ⟨fun every => ?_, execution.everyState holds starts preserved sound⟩
  induction execution with
  | start _ => trivial
  | step earlier taken inductionHypothesis =>
    have guarded := inductionHypothesis every.2
    have kept := earlier.invariant holds starts preserved guarded
    exact ⟨exact _ _ _ _ kept taken every.1, guarded⟩

end Execution

namespace System

/-- The state after a list of actions, when every one of them can be taken. -/
def run (system : System State Action) (state : State) : List Action → Option State
  | [] => some state
  | action :: actions => (system.step state action).bind fun next => system.run next actions

theorem run_append (system : System State Action) (state : State) (first second : List Action) :
    system.run state (first ++ second) =
      (system.run state first).bind fun next => system.run next second := by
  induction first generalizing state with
  | nil => rfl
  | cons action first inductionHypothesis =>
    simp only [List.cons_append, run, inductionHypothesis, Option.bind_assoc]

/-- As `run`, with the history of the steps taken. -/
def replay (system : System State Action) (history : History State Action) (state : State) :
    List Action → Option (History State Action × State)
  | [] => some (history, state)
  | action :: actions =>
    match system.step state action with
    | none => none
    | some next => system.replay ((state, action) :: history) next actions

variable (system : System State Action)

theorem execution_replay {history : History State Action} {state : State}
    (execution : Execution system history state) {actions : List Action}
    {result : History State Action × State}
    (replayed : system.replay history state actions = some result) :
    Execution system result.1 result.2 := by
  induction actions generalizing history state with
  | nil =>
    simp only [replay, Option.some.injEq] at replayed
    subst replayed
    exact execution
  | cons action actions inductionHypothesis =>
    simp only [replay] at replayed
    split at replayed
    · contradiction
    next taken => exact inductionHypothesis (execution.step taken) replayed

/-- The history and the state that a list of actions leads to. -/
def reached (state : State) (actions : List Action)
    (taken : (system.replay [] state actions).isSome) : History State Action × State :=
  (system.replay [] state actions).get taken

/-- A list of actions that can be taken from an initial state is an execution. -/
theorem execution_reached {state : State} (initial : system.initial state) (actions : List Action)
    (taken : (system.replay [] state actions).isSome) :
    Execution system (system.reached state actions taken).1 (system.reached state actions taken).2 :=
  system.execution_replay (.start initial) (Option.some_get taken).symm

end System

end Lyv.Library
