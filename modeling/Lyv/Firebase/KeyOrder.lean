import Mathlib.Data.List.Lex
import Mathlib.Data.Prod.Lex
import Mathlib.Data.Sum.Order
import Lyv.Firebase.Node

/-!
# The order of sibling keys

`compareKey` goes by a rank: integers come first, by value and then by length,
and all other keys by their UTF-16 units.  It is a strict order, and two keys that
it does not tell apart are both integers.
-/

namespace Lyv.Firebase

/-- The place of a key among its siblings. -/
def keyRank (key : String) : (ℤ ×ₗ ℕ) ⊕ₗ List ℕ :=
  match tryParseStringToInt key with
  | some value => Sum.inlₗ (toLex (value, key.length))
  | none => Sum.inrₗ (key.toList.flatMap utf16)

theorem compareOfLessAndEq_eq_lt_iff {first second : List ℕ} :
    compareOfLessAndEq first second = .lt ↔ first < second := by
  unfold compareOfLessAndEq
  split
  next less => simp [less]
  next notLess =>
    simp only [notLess, iff_false]
    split
    all_goals simp

theorem keyBefore_iff {first second : String} : keyBefore first second ↔ keyRank first < keyRank second := by
  simp only [keyBefore, beq_iff_eq, compareKey, keyRank]
  cases tryParseStringToInt first with
  | none =>
    cases tryParseStringToInt second with
    | none => simp only [compareOfLessAndEq_eq_lt_iff, Sum.Lex.inr_lt_inr_iff]
    | some _ => simp
  | some left =>
    cases tryParseStringToInt second with
    | none => simp
    | some right =>
      simp only [Ordering.then_eq_lt, compare_lt_iff_lt, compare_eq_iff_eq, Sum.Lex.inl_lt_inl_iff,
        Prod.Lex.toLex_lt_toLex]

theorem keyBefore_trans {first second third : String} (below : keyBefore first second)
    (above : keyBefore second third) : keyBefore first third :=
  keyBefore_iff.mpr ((keyBefore_iff.mp below).trans (keyBefore_iff.mp above))

theorem keyBefore_asymm {first second : String} (below : keyBefore first second) : ¬ keyBefore second first :=
  fun above => (keyBefore_iff.mp below).asymm (keyBefore_iff.mp above)

/-! ## UTF-16 -/

/-- The units of a character tell it from what follows. -/
theorem utf16_append_inj {first second : Char} {rest others : List ℕ}
    (same : utf16 first ++ rest = utf16 second ++ others) : first = second ∧ rest = others := by
  -- no character is a surrogate
  have valid : ∀ character : Char, character.toNat < 0xD800 ∨
      0xDFFF < character.toNat ∧ character.toNat < 0x110000 := fun character => character.valid
  have firstValid := valid first
  have secondValid := valid second
  unfold utf16 at same
  split at same
  next single =>
    split at same
    next =>
      obtain ⟨unit, rest⟩ := List.cons.inj same
      exact ⟨Char.toNat_inj.mp unit, rest⟩
    next =>
      obtain ⟨unit, _⟩ := List.cons.inj same
      omega
  next =>
    split at same
    next =>
      obtain ⟨unit, _⟩ := List.cons.inj same
      omega
    next =>
      obtain ⟨high, low⟩ := List.cons.inj same
      obtain ⟨low, rest⟩ := List.cons.inj low
      refine ⟨Char.toNat_inj.mp ?_, rest⟩
      omega

theorem flatMap_utf16_inj {first second : List Char} (same : first.flatMap utf16 = second.flatMap utf16) :
    first = second := by
  have nonempty : ∀ character, utf16 character ≠ [] := by
    intro character
    unfold utf16
    split
    all_goals simp
  induction first generalizing second with
  | nil =>
    cases second with
    | nil => rfl
    | cons character _ => simp [nonempty character] at same
  | cons character characters inductionHypothesis =>
    cases second with
    | nil => simp [nonempty character] at same
    | cons other others =>
      obtain ⟨rfl, rest⟩ := utf16_append_inj same
      rw [inductionHypothesis rest]

/-- A key that is no integer can be compared with every other key. -/
theorem keyBefore_total {key other : String} (notInteger : tryParseStringToInt key = none) (different : other ≠ key) :
    keyBefore key other ∨ keyBefore other key := by
  simp only [keyBefore_iff]
  refine lt_or_gt_of_ne fun same => different ?_
  simp only [keyRank, notInteger] at same
  cases integer : tryParseStringToInt other with
  | some _ => simp [integer] at same
  | none =>
    simp only [integer, EmbeddingLike.apply_eq_iff_eq, Sum.inr.injEq] at same
    exact String.toList_injective (flatMap_utf16_inj same).symm

/-- A long key is no integer. -/
theorem tryParseStringToInt_of_long {key : String} (long : 11 < key.length) : tryParseStringToInt key = none := by
  simp [tryParseStringToInt, long]

/-- The order does not tell apart integers with as many characters. -/
theorem compareKey_negativeZero : compareKey "-0" "00" = .eq := by
  decide +kernel

end Lyv.Firebase
