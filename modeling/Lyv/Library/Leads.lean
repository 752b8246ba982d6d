import Lyv.Library.Descent

/-!
# Where actions of a kind lead

What can still be reached by actions of one kind: an invariant of those actions
goes along, an execution goes on, and a system of many parts can bring one part
after the other to where it should be, as long as none undoes another.
-/

namespace Lyv.Library.System

variable {State Action : Type*} {system : System State Action} {kind other : Action → Prop}
  {state middle next : State}

/-- Actions of the kind can be taken from the one state to the other. -/
def Leads (system : System State Action) (kind : Action → Prop) (state next : State) : Prop :=
  ∃ actions, (∀ action ∈ actions, kind action) ∧ system.run state actions = some next

theorem Leads.refl (state : State) : system.Leads kind state state := ⟨[], by simp, rfl⟩

theorem Leads.single {action : Action} (ofKind : kind action) (taken : system.step state action = some next) :
    system.Leads kind state next :=
  ⟨[action], by simpa using ofKind, by simp [run, taken]⟩

theorem Leads.trans (first : system.Leads kind state middle) (second : system.Leads kind middle next) :
    system.Leads kind state next := by
  obtain ⟨before, ofKind, run⟩ := first
  obtain ⟨after, ofKind', run'⟩ := second
  refine ⟨before ++ after, ?_, ?_⟩
  · intro action member
    exact (List.mem_append.mp member).elim (ofKind action) (ofKind' action)
  · rw [run_append, run, Option.bind_some, run']

theorem Leads.mono (leads : system.Leads kind state next) (more : ∀ action, kind action → other action) :
    system.Leads other state next := by
  obtain ⟨actions, ofKind, run⟩ := leads
  exact ⟨actions, fun action member => more action (ofKind action member), run⟩

/-- What actions of the kind keep, holds wherever they lead. -/
theorem Leads.invariant (holds : State → Prop)
    (preserved : ∀ state action next, holds state → kind action → system.step state action = some next → holds next)
    (leads : system.Leads kind state next) (start : holds state) : holds next := by
  obtain ⟨actions, ofKind, taken⟩ := leads
  induction actions generalizing state with
  | nil =>
    obtain rfl := Option.some.inj taken
    exact start
  | cons action actions inductionHypothesis =>
    obtain ⟨middle, first, rest⟩ := Option.bind_eq_some_iff.mp taken
    exact inductionHypothesis (preserved state action middle start (ofKind action List.mem_cons_self) first)
      (fun action member => ofKind action (List.mem_cons_of_mem _ member)) rest

/-- Where actions of the kind lower a measure and can be taken until it is zero, they lead there. -/
theorem Lowers.leads {measure : State → Nat} (lowers : system.Lowers kind measure)
    (progresses : system.Progresses kind measure) (state : State) :
    ∃ next, system.Leads kind state next ∧ measure next = 0 := by
  obtain ⟨actions, next, ofKind, taken, zero⟩ := lowers.exists_run progresses state
  exact ⟨next, ⟨actions, ofKind, taken⟩, zero⟩

/-- One part after the other is brought to where it should be. -/
theorem leads_all {Part : Type*} (good : Part → State → Prop) (holds : State → Prop)
    (recover : ∀ part state, holds state → ∃ next, system.Leads kind state next ∧ holds next ∧ good part next ∧
      ∀ other, good other state → good other next)
    (parts : List Part) (start : holds state) :
    ∃ next, system.Leads kind state next ∧ holds next ∧ ∀ part ∈ parts, good part next := by
  induction parts generalizing state with
  | nil => exact ⟨state, .refl state, start, by simp⟩
  | cons part parts inductionHypothesis =>
    obtain ⟨middle, first, kept, others⟩ := inductionHypothesis start
    obtain ⟨next, second, kept', here, stay⟩ := recover part middle kept
    refine ⟨next, first.trans second, kept', fun other member => ?_⟩
    obtain rfl | member := List.mem_cons.mp member
    · exact here
    · exact stay other (others other member)

end Lyv.Library.System

namespace Lyv.Library.Execution

variable {State Action : Type*} {system : System State Action} {kind : Action → Prop}
  {history : History State Action} {state next : State} {guard : Guard State Action}

/-- A guarded execution goes on with actions of a kind that meets the guard. -/
theorem leads (execution : Execution system history state) (guarded : EveryStep guard history)
    (meets : ∀ history state action, kind action → guard history state action)
    (leads : system.Leads kind state next) : ∃ history, Execution system history next ∧ EveryStep guard history := by
  refine leads.invariant (fun state => ∃ history, Execution system history state ∧ EveryStep guard history) ?_
    ⟨history, execution, guarded⟩
  rintro state action next ⟨history, execution, guarded⟩ ofKind taken
  exact ⟨_, execution.step taken, meets history state action ofKind, guarded⟩

end Lyv.Library.Execution
