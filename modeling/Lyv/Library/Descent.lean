import Lyv.Library.Transition

/-!
# Actions that come to an end

Where every action of a kind lowers a measure, only so many of them can be taken
in a row; and where one can be taken as long as the measure is not zero, they
lead to a state in which it is.
-/

namespace Lyv.Library.System

variable {State Action : Type*} {system : System State Action} {kind : Action → Prop} {measure : State → Nat}

/-- Every action of the kind lowers the measure. -/
def Lowers (system : System State Action) (kind : Action → Prop) (measure : State → Nat) : Prop :=
  ∀ state action next, kind action → system.step state action = some next → measure next < measure state

/-- An action of the kind can be taken wherever the measure is not zero. -/
def Progresses (system : System State Action) (kind : Action → Prop) (measure : State → Nat) : Prop :=
  ∀ state, measure state ≠ 0 → ∃ action next, kind action ∧ system.step state action = some next

theorem Lowers.length_add_le (lowers : system.Lowers kind measure) {state next : State} {actions : List Action}
    (all : ∀ action ∈ actions, kind action) (taken : system.run state actions = some next) :
    actions.length + measure next ≤ measure state := by
  induction actions generalizing state with
  | nil =>
    obtain rfl := Option.some.inj taken
    simp
  | cons action actions inductionHypothesis =>
    obtain ⟨middle, first, rest⟩ := Option.bind_eq_some_iff.mp taken
    have lower := lowers state action middle (all action List.mem_cons_self) first
    have others := inductionHypothesis (fun other member => all other (List.mem_cons_of_mem _ member)) rest
    rw [List.length_cons]
    omega

theorem Lowers.exists_run (lowers : system.Lowers kind measure) (progresses : system.Progresses kind measure)
    (state : State) :
    ∃ actions next, (∀ action ∈ actions, kind action) ∧ system.run state actions = some next ∧
      measure next = 0 := by
  -- the induction is on the measure, which the first action lowers
  induction work : measure state using Nat.strongRecOn generalizing state with
  | ind amount inductionHypothesis =>
    by_cases rest : measure state = 0
    · exact ⟨[], state, by simp, rfl, rest⟩
    · obtain ⟨action, middle, ofKind, taken⟩ := progresses state rest
      have lower := lowers state action middle ofKind taken
      obtain ⟨actions, next, all, run, done⟩ := inductionHypothesis (measure middle) (by omega) middle rfl
      refine ⟨action :: actions, next, ?_, ?_, done⟩
      · intro other member
        obtain rfl | member := List.mem_cons.mp member
        · exact ofKind
        · exact all other member
      · simp [System.run, taken, run]

end Lyv.Library.System
