import Lyv.App.Invariants

/-!
# Writes under way

Which requests are in flight without an answer, and which steps leave the
`setValue`s among them as they are.
-/

namespace Lyv

open Lyv.Library Lyv.Firebase

/-- A request is in flight, with its completion and without an answer. -/
def UnderWay (network : List Op) (request : Request) (closure : Closure) : Prop :=
  ∃ op ∈ network, op.request = request ∧ op.closure = closure ∧ op.response = none

theorem underWay_append {network sent : List Op} {request : Request} {closure : Closure} :
    UnderWay (network ++ sent) request closure ↔
      UnderWay network request closure ∨ UnderWay sent request closure := by
  simp [UnderWay, or_and_right, exists_or]

theorem underWay_cons {op : Op} {network : List Op} {request : Request} {closure : Closure} :
    UnderWay (op :: network) request closure ↔
      (op.request = request ∧ op.closure = closure ∧ op.response = none) ∨
        UnderWay network request closure := by
  simp [UnderWay]

/-- The request is a `setValue`. -/
def Request.sets : Request → Bool
  | .setUser _ _ | .setBeacon _ _ => true
  | _ => false

theorem Request.isWrite_of_sets {request : Request} (sets : request.sets) : request.isWrite := by
  cases request <;> simp_all [Request.sets, Request.isWrite]

/-- The same writes are under way before and after. -/
def SameWrites (before after : List Op) : Prop :=
  ∀ request closure, request.sets → (UnderWay after request closure ↔ UnderWay before request closure)

/-- The operation sets nothing, or has its answer. -/
def Op.Quiet (op : Op) : Prop := op.request.sets → op.response ≠ none

theorem SameWrites.of_quiet {before after : List Op} (kept : ∀ op ∈ before, op ∈ after ∨ op.Quiet)
    (former : ∀ op ∈ after, op ∈ before ∨ op.Quiet) : SameWrites before after := by
  rintro _ _ sets
  constructor
  · rintro ⟨op, member, rfl, rfl, waiting⟩
    obtain present | quiet := former op member
    · exact ⟨op, present, rfl, rfl, waiting⟩
    · exact absurd waiting (quiet sets)
  · rintro ⟨op, member, rfl, rfl, waiting⟩
    obtain present | quiet := kept op member
    · exact ⟨op, present, rfl, rfl, waiting⟩
    · exact absurd waiting (quiet sets)

theorem SameWrites.refl (network : List Op) : SameWrites network network := fun _ _ _ => .rfl

theorem SameWrites.trans {first second third : List Op} (one : SameWrites first second)
    (two : SameWrites second third) : SameWrites first third :=
  fun request closure sets => (two request closure sets).trans (one request closure sets)

theorem SameWrites.append {network sent : List Op} (other : ∀ op ∈ sent, op.request.sets = false) :
    SameWrites network (network ++ sent) :=
  .of_quiet (fun _ member => .inl (List.mem_append_left _ member))
    fun op member => (List.mem_append.mp member).imp_right fun present sets => by
      simp [other op present] at sets

theorem SameWrites.eraseIdx {network : List Op} {index : Nat} {op : Op} {response : Response}
    (found : network[index]? = some op) (responded : op.response = some response) :
    SameWrites network (network.eraseIdx index) := by
  refine .of_quiet (fun other member => ?_) fun _ member => .inl (List.mem_of_mem_eraseIdx member)
  obtain ⟨position, present⟩ := List.mem_iff_getElem?.mp member
  by_cases here : position = index
  · subst here
    obtain rfl := Option.some.inj (found.symm.trans present)
    exact .inr fun _ => by simp [responded]
  · exact .inl (List.mem_eraseIdx_iff_getElem?.mpr ⟨position, here, present⟩)

/-- A dying process leaves its writes under way. -/
theorem SameWrites.die (client : Client) (root : Root) :
    SameWrites client.network (client.die root).network := by
  rintro _ _ sets
  constructor
  · rintro ⟨op, member, rfl, rfl, waiting⟩
    obtain ⟨former, present, orphaned⟩ := List.mem_filterMap.mp member
    obtain ⟨_, _, rfl⟩ := Op.orphaned_eq_some.mp orphaned
    exact ⟨former, present, rfl, rfl, waiting⟩
  · rintro ⟨op, member, rfl, rfl, waiting⟩
    exact ⟨{ op with orphan := true }, List.mem_filterMap.mpr ⟨op, member,
      Op.orphaned_eq_some.mpr ⟨Request.isWrite_of_sets sets, waiting, rfl⟩⟩, rfl, rfl, waiting⟩

/-- Before an answer, the answered operation was under way besides those that still are. -/
theorem underWay_answered {client : Client} {index : Nat} {op : Op} (response : Response)
    (found : client.network[index]? = some op) (waiting : op.response = none) (request : Request)
    (closure : Closure) :
    UnderWay client.network request closure ↔
      (op.request = request ∧ op.closure = closure) ∨
        UnderWay (client.answered index op response).network request closure := by
  constructor
  · rintro ⟨other, member, rfl, rfl, unanswered⟩
    by_cases same : other = op
    · exact .inl (same ▸ ⟨rfl, rfl⟩)
    · exact .inr ⟨other, Client.mem_answered found member same, rfl, rfl, unanswered⟩
  · rintro (⟨rfl, rfl⟩ | ⟨other, member, rfl, rfl, unanswered⟩)
    · exact ⟨op, List.mem_of_getElem? found, rfl, rfl, waiting⟩
    · obtain present | ⟨_, rfl⟩ := Client.mem_of_mem_answered member
      · exact ⟨other, present, rfl, rfl, unanswered⟩
      · simp at unanswered

/-- An answer to a request that sets nothing. -/
theorem SameWrites.answered {client : Client} {index : Nat} {op : Op} {response : Response}
    (found : client.network[index]? = some op) (waiting : op.response = none)
    (unset : op.request.sets = false) :
    SameWrites client.network (client.answered index op response).network := by
  intro request closure sets
  rw [underWay_answered response found waiting request closure]
  refine ⟨.inr, fun either => either.resolve_left ?_⟩
  rintro ⟨rfl, _⟩
  simp [unset] at sets

end Lyv
