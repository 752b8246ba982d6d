import Mathlib.Data.List.TakeWhile
import Mathlib.Tactic.IntervalCases
import Lyv.Firebase.Node

/-!
# Arrays of strings through the database

An array is stored as children "0", "1", …, and comes back as an array because
its keys are all integers and the largest is below twice their number.  The
empty array is stored as nothing at all.
-/

namespace Lyv.Firebase

open Lyv.Library

theorem toDigits_head_ne_zero {number : Nat} (positive : 0 < number) {first : Char}
    {rest : List Char} (digits : Nat.toDigits 10 number = first :: rest) : first ≠ '0' := by
  induction number using Nat.strong_induction_on generalizing first rest with
  | _ number inductionHypothesis =>
    by_cases small : number < 10
    · rw [Nat.toDigits_of_lt_base small] at digits
      obtain ⟨rfl, rfl⟩ := List.cons.inj digits
      interval_cases number <;> decide
    · rw [Nat.toDigits_of_base_le (by decide) (by omega)] at digits
      cases leading : Nat.toDigits 10 (number / 10) with
      | nil => exact absurd leading Nat.toDigits_ne_nil
      | cons head tail =>
        rw [leading, List.cons_append] at digits
        obtain ⟨rfl, -⟩ := List.cons.inj digits
        exact inductionHypothesis (number / 10) (by omega) (by omega) leading

theorem isDecimalDigit_of_isDigit {character : Char} (digit : character.isDigit) : isDecimalDigit character := by
  have bounds : 48 ≤ character.toNat ∧ character.toNat ≤ 57 := by
    simpa [Char.isDigit, UInt32.le_iff_toNat_le] using digit
  refine List.any_eq_true.mpr ⟨0x30, List.mem_cons_self, ?_⟩
  simp only [Bool.and_eq_true, decide_eq_true_eq]
  omega

/-- Digits of ASCII are scanned to their end. -/
theorem intForString_eq {string : String} (nonempty : string.toList ≠ [])
    (digits : ∀ character ∈ string.toList, character.isDigit) :
    intForString string = some (Nat.ofDigitChars 10 string.toList 0) := by
  have every : string.toList.all isDecimalDigit = true :=
    List.all_eq_true.mpr fun character member => isDecimalDigit_of_isDigit (digits character member)
  have whole : string.toList.takeWhile Char.isDigit = string.toList := List.takeWhile_eq_self_iff.mpr digits
  simp [intForString, every, whole, nonempty]

/-- The decimal form of a number is an index, and it is read as that number. -/
@[simp] theorem integerKey_repr (number : Nat) : integerKey number.repr = some number := by
  have digits : ∀ character ∈ Nat.toDigits 10 number, character.isDigit :=
    fun _ member => Nat.isDigit_of_mem_toDigits (by decide) (by decide) member
  unfold integerKey
  split
  next second rest leading =>
    rw [Nat.toList_repr] at leading
    rcases Nat.eq_zero_or_pos number with rfl | positive
    · simp at leading
    · exact absurd rfl (toDigits_head_ne_zero positive leading)
  next =>
    rw [intForString_eq (by simpa only [Nat.toList_repr] using Nat.toDigits_ne_nil)
      (by simpa only [Nat.toList_repr] using digits), Nat.toList_repr, Nat.ofDigitChars_ten_toDigits]

theorem repr_injective : Function.Injective Nat.repr := by
  intro first second same
  have keys := congrArg integerKey same
  simpa using keys

/-- The children an array of strings is stored as, read back one by one. -/
def numbered (index : Nat) : List String → List (String × Json)
  | [] => []
  | text :: texts => (index.repr, .string text) :: numbered (index + 1) texts

theorem valEntries_arrayChildren (index : Nat) (texts : List String) :
    valEntries (arrayChildren index (texts.map Json.string)) = numbered index texts := by
  induction texts generalizing index with
  | nil => rfl
  | cons text texts inductionHypothesis =>
    simp [arrayChildren, nodeFrom, Node.isEmpty, valEntries, Node.val, Leaf.val, numbered,
      inductionHypothesis]

theorem length_numbered (index : Nat) (texts : List String) :
    (numbered index texts).length = texts.length := by
  induction texts generalizing index with
  | nil => rfl
  | cons text texts inductionHypothesis => simp [numbered, inductionHypothesis]

theorem allIntegerKeys_numbered (index : Nat) (texts : List String) :
    allIntegerKeys (numbered index texts) = true := by
  induction texts generalizing index with
  | nil => rfl
  | cons text texts inductionHypothesis =>
    simp only [allIntegerKeys] at inductionHypothesis
    simp [allIntegerKeys, numbered, inductionHypothesis]

theorem lookup_numbered (index offset : Nat) (texts : List String) :
    (numbered index texts).lookup (index + offset).repr = (texts[offset]?).map Json.string := by
  induction texts generalizing index offset with
  | nil => simp [numbered]
  | cons text texts inductionHypothesis =>
    cases offset with
    | zero => simp [numbered]
    | succ offset =>
      -- the first key is another number's, and the search goes on one index further
      have different : ((index + (offset + 1)).repr == index.repr) = false := by
        apply beq_eq_false_iff_ne.mpr
        intro same
        have := repr_injective same
        omega
      have shifted := inductionHypothesis (index + 1) offset
      rw [show index + 1 + offset = index + (offset + 1) by omega] at shifted
      simp [numbered, List.lookup_cons, different, shifted]

theorem foldl_max_numbered (largest index : Nat) (text : String) (texts : List String) :
    (numbered index (text :: texts)).foldl
      (fun largest field => max largest ((integerKey field.1).getD 0)) largest =
      max largest (index + texts.length) := by
  induction texts generalizing largest index text with
  | nil => simp [numbered]
  | cons second texts inductionHypothesis =>
    rw [numbered, List.foldl_cons, inductionHypothesis]
    simp only [integerKey_repr, Option.getD_some, List.length_cons]
    omega

/-- A non-empty array of strings reads back unchanged. -/
theorem val_nodeFrom_strings (text : String) (texts : List String) :
    (nodeFrom (.array ((text :: texts).map Json.string))).val =
      .array ((text :: texts).map Json.string) := by
  have largest : maxKey (numbered 0 (text :: texts)) = texts.length := by
    simp [maxKey, foldl_max_numbered]
  have nonempty : (numbered 0 (text :: texts)).isEmpty = false := rfl
  have few : texts.length < 2 * (numbered 0 (text :: texts)).length := by
    rw [length_numbered, List.length_cons]
    omega
  rw [nodeFrom, Node.val, valEntries_arrayChildren, exportChildren, nonempty, allIntegerKeys_numbered,
    largest]
  simp only [Bool.false_eq_true, if_false, Bool.true_and, decide_eq_true_eq, few, if_true,
    Json.array.injEq]
  -- the array that is read back has the same item at each position
  apply List.ext_getElem
  · simp
  · intro position _ bound
    have found := lookup_numbered 0 position (text :: texts)
    rw [Nat.zero_add, List.getElem?_eq_getElem (by simpa using bound)] at found
    simp only [List.getElem_map, List.getElem_range, found, Option.map_some, Option.getD_some]

theorem asStrings_map_string (texts : List String) :
    (Json.array (texts.map Json.string)).asStrings = some texts := by
  simp only [Json.asStrings]
  induction texts with
  | nil => rfl
  | cons text texts inductionHypothesis =>
    simp [List.mapM_cons, Json.asString, inductionHypothesis]

/-- Reading a stored list of strings gives the list, and an absent field when it was empty. -/
theorem readBack_strings (texts : List String) :
    ((readBack (.array (texts.map Json.string))).bind Json.asStrings).getD [] = texts := by
  cases texts with
  | nil => rfl
  | cons text texts =>
    have stored : (nodeFrom (.array ((text :: texts).map Json.string))).isEmpty = false := by
      simp [nodeFrom, Node.isEmpty, arrayChildren]
    rw [readBack, stored, val_nodeFrom_strings]
    simp only [Bool.false_eq_true, if_false, Option.bind_some, asStrings_map_string, Option.getD_some]

end Lyv.Firebase
