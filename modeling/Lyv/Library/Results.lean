import Mathlib.Data.List.Forall2
import Mathlib.Data.List.Induction

/-!
# Results

A successful computation is peeled apart one bind at a time; a list of computations
succeeds when each of them does; and a field that inputs may set holds the value of
the last input that sets it.
-/

namespace Lyv.Library

section

variable {Error First Second : Type}

theorem bind_eq_ok {first : Except Error First} {rest : First → Except Error Second} {result : Second} :
    (first >>= rest) = .ok result ↔ ∃ value, first = .ok value ∧ rest value = .ok result := by
  cases first <;> simp [bind, Except.bind]

theorem bind_eq_error {first : Except Error First} {rest : First → Except Error Second} {error : Error} :
    (first >>= rest) = .error error ↔
      first = .error error ∨ ∃ value, first = .ok value ∧ rest value = .error error := by
  cases first <;> simp [bind, Except.bind]

theorem pure_ne_error {value : First} {error : Error} : (pure value : Except Error First) ≠ .error error := by
  simp [pure, Except.pure]

theorem pure_eq_ok {value result : First} :
    (pure value : Except Error First) = .ok result ↔ value = result := by
  simp [pure, Except.pure]

theorem map_eq_ok {first : Except Error First} {change : First → Second} {result : Second} :
    first.map change = .ok result ↔ ∃ value, first = .ok value ∧ change value = result := by
  cases first <;> simp [Except.map]

theorem map_eq_error {first : Except Error First} {change : First → Second} {error : Error} :
    first.map change = .error error ↔ first = .error error := by
  cases first <;> simp [Except.map]

theorem toOption_eq_some {first : Except Error First} {value : First} :
    first.toOption = some value ↔ first = .ok value := by
  cases first <;> simp [Except.toOption]

end

/-! ## Lists related element by element -/

section

variable {First Second : Type*} {related : First → Second → Prop} {list : List First}

theorem exists_forall₂_iff :
    (∃ others, List.Forall₂ related list others) ↔ ∀ first ∈ list, ∃ second, related first second := by
  induction list with
  | nil => simp
  | cons first list inductionHypothesis =>
    simp only [List.mem_cons, forall_eq_or_imp, ← inductionHypothesis]
    constructor
    · rintro ⟨_, pairs⟩
      cases pairs with
      | cons head tail => exact ⟨⟨_, head⟩, ⟨_, tail⟩⟩
    · rintro ⟨⟨second, head⟩, ⟨others, tail⟩⟩
      exact ⟨second :: others, .cons head tail⟩

theorem exists_of_mem_right {others : List Second} (pairs : List.Forall₂ related list others)
    {second : Second} (member : second ∈ others) : ∃ first ∈ list, related first second := by
  induction pairs with
  | nil => simp at member
  | cons head _ inductionHypothesis =>
    obtain rfl | member := List.mem_cons.mp member
    · exact ⟨_, List.mem_cons_self, head⟩
    · obtain ⟨first, present, holds⟩ := inductionHypothesis member
      exact ⟨first, List.mem_cons_of_mem _ present, holds⟩

end

/-! ## The last value given -/

section

variable {State Input Value : Type}

/-- The value that was given last, of a list with the latest input first. -/
def latest (given : Input → Option Value) (original : Value) (inputs : List Input) : Value :=
  (inputs.findSome? given).getD original

@[simp] theorem latest_nil (given : Input → Option Value) (original : Value) :
    latest given original [] = original := rfl

theorem latest_cons (given : Input → Option Value) (original : Value) (input : Input)
    (inputs : List Input) :
    latest given original (input :: inputs) = (given input).getD (latest given original inputs) := by
  cases value : given input <;> simp [latest, value]

/-- A field holds what was given last, when every input sets it to what it gives, or leaves it. -/
theorem foldl_eq_latest {apply : State → Input → State} {given : Input → Option Value}
    (field : State → Value)
    (sets : ∀ state input, field (apply state input) = (given input).getD (field state))
    (state : State) (inputs : List Input) :
    field (inputs.foldl apply state) = latest given (field state) inputs.reverse := by
  induction inputs using List.reverseRecOn with
  | nil => rfl
  | append_singleton inputs input inductionHypothesis =>
    rw [List.foldl_append, List.foldl_cons, List.foldl_nil, sets, inductionHypothesis, List.reverse_append,
      List.reverse_singleton, List.singleton_append, latest_cons]

/-- Starting over from the original value forgets no input, exactly when the
last one gives a value or those before it left the original. -/
theorem getD_eq_latest_iff {given : Input → Option Value} {original : Value} {input : Input}
    {inputs : List Input} :
    (given input).getD original = latest given original (input :: inputs) ↔
      (given input = none → latest given original inputs = original) := by
  rw [latest_cons]
  cases value : given input <;> simp [eq_comm]

end

end Lyv.Library
