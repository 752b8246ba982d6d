import Mathlib.Algebra.BigOperators.Ring.Finset
import Mathlib.Algebra.BigOperators.Group.Finset.Piecewise
import Mathlib.Algebra.BigOperators.Group.Finset.Basic
import Mathlib.Algebra.Order.BigOperators.Group.Finset
import Mathlib.Data.Fintype.Basic

/-!
# Counting in lists and over parties

How a count changes when one entry of a list does, and how a sum over parties
changes when one party does.
-/

namespace Lyv.Library

section

variable {Item Other : Type*} {items : List Item} {index : Nat} {item : Item} (counts : Item → Bool)

theorem countP_eraseIdx (found : items[index]? = some item) :
    (items.eraseIdx index).countP counts + (if counts item then 1 else 0) = items.countP counts := by
  obtain ⟨bound, rfl⟩ := List.getElem?_eq_some_iff.mp found
  rw [← (List.getElem_cons_eraseIdx_perm bound).countP_eq, List.countP_cons]

theorem countP_set (found : items[index]? = some item) (new : Item) :
    (items.set index new).countP counts + (if counts item then 1 else 0) =
      items.countP counts + (if counts new then 1 else 0) := by
  obtain ⟨bound, rfl⟩ := List.getElem?_eq_some_iff.mp found
  rw [(List.set_perm_cons_eraseIdx bound new).countP_eq, List.countP_cons,
    ← countP_eraseIdx counts found]
  omega

theorem countP_filterMap_le {change : Item → Option Other} {after : Other → Bool}
    (kept : ∀ item other, change item = some other → after other → counts item) :
    (items.filterMap change).countP after ≤ items.countP counts := by
  rw [List.countP_filterMap]
  refine List.countP_mono_left fun item _ changed => ?_
  cases result : change item with
  | none => simp [result] at changed
  | some other => exact kept item other result (by simpa [result] using changed)

end

section

variable {Item Other : Type*} {items : List Item} {index : Nat} {item : Item} (weight : Item → Nat)

theorem sum_eraseIdx (found : items[index]? = some item) :
    ((items.eraseIdx index).map weight).sum + weight item = (items.map weight).sum := by
  obtain ⟨bound, rfl⟩ := List.getElem?_eq_some_iff.mp found
  rw [← ((List.getElem_cons_eraseIdx_perm bound).map weight).sum_eq, List.map_cons, List.sum_cons, Nat.add_comm]

theorem sum_set (found : items[index]? = some item) (new : Item) :
    ((items.set index new).map weight).sum + weight item = (items.map weight).sum + weight new := by
  obtain ⟨bound, rfl⟩ := List.getElem?_eq_some_iff.mp found
  rw [((List.set_perm_cons_eraseIdx bound new).map weight).sum_eq, List.map_cons, List.sum_cons,
    ← sum_eraseIdx weight found]
  omega

theorem sum_filterMap_le {change : Item → Option Other} {after : Other → Nat}
    (kept : ∀ item other, change item = some other → after other ≤ weight item) (items : List Item) :
    ((items.filterMap change).map after).sum ≤ (items.map weight).sum := by
  induction items with
  | nil => simp
  | cons item items inductionHypothesis =>
    rw [List.map_cons, List.sum_cons]
    cases changed : change item with
    | none =>
      rw [List.filterMap_cons_none changed]
      omega
    | some other =>
      have less := kept item other changed
      rw [List.filterMap_cons_some changed, List.map_cons, List.sum_cons]
      omega

end

/-- Only one party's share of a sum changes. -/
theorem sum_of_changed {Party : Type*} [Fintype Party] [DecidableEq Party] {before after : Party → Nat}
    (party : Party) (same : ∀ other, other ≠ party → after other = before other) :
    Finset.univ.sum after + before party = Finset.univ.sum before + after party := by
  have updated : after = Function.update before party (after party) := by
    funext other
    by_cases here : other = party
    · subst here
      simp
    · simp [here, same other here]
  rw [updated, Finset.sum_update_of_mem (Finset.mem_univ party), Function.update_self,
    ← Finset.add_sum_erase _ before (Finset.mem_univ party), Finset.sdiff_singleton_eq_erase]
  omega

end Lyv.Library
