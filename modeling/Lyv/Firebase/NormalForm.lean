import Mathlib.Data.List.Induction
import Lyv.Firebase.KeyOrder
import Lyv.Firebase.StringArray

/-!
# What reads back as it was stored

A node in normal form has its children in order and none of them empty, and no
number among their keys is written in the digits of another script.  It is what its
own value is stored as, although a value does not say whether it was written as an
array or as a dictionary.  Whatever is written is in normal form.
-/

namespace Lyv.Firebase

open Lyv.Library

/-! ## Indices -/

/-- Digits without a leading zero are the decimal form of their number. -/
theorem toDigits_ofDigitChars {digits : List Char} (nonempty : digits ≠ [])
    (every : ∀ digit ∈ digits, digit.isDigit) (leading : ∀ rest, digits = '0' :: rest → rest = []) :
    Nat.toDigits 10 (Nat.ofDigitChars 10 digits 0) = digits := by
  induction digits using List.reverseRecOn with
  | nil => contradiction
  | append_singleton before last inductionHypothesis =>
    have bounds : 48 ≤ last.toNat ∧ last.toNat ≤ 57 := by
      simpa [Char.isDigit, UInt32.le_iff_toNat_le] using every last (by simp)
    have lastDigit : (last.toNat - 48).digitChar = last := by
      apply Char.toNat_inj.mp
      rw [Nat.toNat_digitChar_of_lt_ten (by omega)]
      omega
    rw [Nat.ofDigitChars_append, Nat.ofDigitChars_cons, Nat.ofDigitChars_nil]
    show Nat.toDigits 10 (10 * Nat.ofDigitChars 10 before 0 + (last.toNat - 48)) = _
    by_cases single : before = []
    · subst single
      rw [Nat.ofDigitChars_nil, Nat.mul_zero, Nat.zero_add, Nat.toDigits_of_lt_base (by omega), lastDigit,
        List.nil_append]
    · have form := inductionHypothesis single (fun digit member => every digit (by simp [member])) (by
        rintro rest rfl
        have short := leading (rest ++ [last]) rfl
        simp at short)
      have positive : 0 < Nat.ofDigitChars 10 before 0 := by
        by_contra zero
        rw [Nat.eq_zero_of_not_pos zero, Nat.toDigits_zero] at form
        have short := leading [last] (by rw [← form]; rfl)
        contradiction
      rw [Nat.toDigits_of_base_le (by omega) (by omega)]
      rw [show (10 * Nat.ofDigitChars 10 before 0 + (last.toNat - 48)) / 10 = Nat.ofDigitChars 10 before 0 by omega,
        show (10 * Nat.ofDigitChars 10 before 0 + (last.toNat - 48)) % 10 = last.toNat - 48 by omega, form, lastDigit]

/-- The key has no decimal digits of other scripts, or something that is no digit. -/
def plainKey (key : String) : Bool := key.toList.all Char.isDigit || !key.toList.all isDecimalDigit

theorem plainKey_repr (number : Nat) : plainKey number.repr := by
  have digits : (Nat.toDigits 10 number).all Char.isDigit = true :=
    List.all_eq_true.mpr fun _ member => Nat.isDigit_of_mem_toDigits (by decide) (by decide) member
  rw [plainKey, Nat.toList_repr, digits, Bool.true_or]

/-- An index is the decimal form of its number. -/
theorem integerKey_eq_some {key : String} (plain : plainKey key) {index : Nat} :
    integerKey key = some index ↔ key = index.repr := by
  constructor
  · intro read
    unfold integerKey at read
    split at read
    · contradiction
    next leading =>
      have decimal : key.toList.all isDecimalDigit = true := by
        by_contra other
        rw [Bool.not_eq_true] at other
        simp only [intForString, other, Bool.not_false, Bool.true_or, if_true] at read
        contradiction
      have digits : ∀ character ∈ key.toList, character.isDigit := by
        simpa [plainKey, decimal] using plain
      have nonempty : key.toList ≠ [] := by
        intro empty
        simp [intForString, empty] at read
      rw [intForString_eq nonempty digits] at read
      obtain rfl := Option.some.inj read
      apply String.toList_injective
      rw [Nat.toList_repr]
      refine (toDigits_ofDigitChars nonempty digits fun rest same => ?_).symm
      cases rest with
      | nil => rfl
      | cons second rest => exact absurd same (leading second rest)
  · rintro rfl
    exact integerKey_repr index

/-- Indices in the range of 32 bits are integers for the order. -/
theorem tryParseStringToInt_repr {index : Nat} (small : index < 2 ^ 31) :
    tryParseStringToInt index.repr = some (index : ℤ) := by
  have digits : ∀ character ∈ Nat.toDigits 10 index, character.isDigit :=
    fun _ member => Nat.isDigit_of_mem_toDigits (by omega) (by omega) member
  have short : index.repr.length ≤ 11 := (Nat.length_repr_le_iff (by omega)).mpr (by omega)
  have every : (Nat.toDigits 10 index).all Char.isDigit := List.all_eq_true.mpr digits
  obtain ⟨first, rest, cons⟩ := List.exists_cons_of_ne_nil (Nat.toDigits_ne_nil (n := index) (b := 10))
  have unsigned : first ≠ '-' := by
    rintro rfl
    have digit := digits '-' (by rw [cons]; exact List.mem_cons_self)
    contradiction
  have value : Nat.ofDigitChars 10 (first :: rest) 0 = index := cons ▸ Nat.ofDigitChars_ten_toDigits
  rw [cons] at every
  simp only [tryParseStringToInt, Nat.toList_repr, cons, List.head?_cons, Option.some.injEq, unsigned, if_false]
  split
  next negative => exact absurd (List.cons.inj negative).1 unsigned
  next =>
    simp only [value, every, List.isEmpty_cons, Bool.not_true, Bool.or_false, decide_eq_true_eq, Bool.or_eq_true]
    rw [if_neg (by omega), if_neg (by omega)]

theorem keyBefore_repr {first second : Nat} (small : first < 2 ^ 31) (small' : second < 2 ^ 31) :
    keyBefore first.repr second.repr ↔ first < second := by
  rw [keyBefore_iff]
  simp only [keyRank, tryParseStringToInt_repr small, tryParseStringToInt_repr small', Sum.Lex.inl_lt_inl_iff,
    Prod.Lex.toLex_lt_toLex]
  constructor
  · rintro (less | ⟨same, shorter⟩)
    · exact_mod_cast less
    · -- one number has one decimal form
      obtain rfl : first = second := by exact_mod_cast same
      exact absurd shorter (lt_irrefl _)
  · intro less
    exact .inl (by exact_mod_cast less)

/-! ## Normal form -/

mutual
/-- The children stand in order under plain keys, none of them is empty, and they can
be numbered with 32 bits. -/
def Node.Normal : Node → Prop
  | .leaf _ => True
  | .children entries => (entries.Pairwise fun earlier later => keyBefore earlier.1 later.1) ∧
      entries.length ≤ 2 ^ 30 ∧ NormalEntries entries

def NormalEntries : List (String × Node) → Prop
  | [] => True
  | (key, node) :: entries => plainKey key ∧ node.isEmpty = false ∧ node.Normal ∧ NormalEntries entries
end

theorem normalEntries_iff {entries : List (String × Node)} :
    NormalEntries entries ↔ ∀ entry ∈ entries, plainKey entry.1 ∧ entry.2.isEmpty = false ∧ entry.2.Normal := by
  induction entries with
  | nil => simp [NormalEntries]
  | cons entry entries inductionHypothesis =>
    rw [NormalEntries, inductionHypothesis, List.forall_mem_cons, and_assoc, and_assoc]

/-! ## From a node to its value and back -/

theorem valEntries_eq_map (entries : List (String × Node)) :
    valEntries entries = entries.map fun entry => (entry.1, entry.2.val) := by
  induction entries with
  | nil => rfl
  | cons entry entries inductionHypothesis => rw [valEntries, inductionHypothesis, List.map_cons]

/-- Children in order that are restored one by one are restored as a dictionary. -/
theorem dictionaryChildren_valEntries {entries : List (String × Node)}
    (sorted : entries.Pairwise fun earlier later => keyBefore earlier.1 later.1)
    (restored : ∀ entry ∈ entries, nodeFrom entry.2.val = entry.2 ∧ entry.2.isEmpty = false) :
    dictionaryChildren (valEntries entries) = entries := by
  induction entries with
  | nil => rfl
  | cons entry entries inductionHypothesis =>
    obtain ⟨key, node⟩ := entry
    obtain ⟨first, rest⟩ := List.forall_mem_cons.mp restored
    obtain ⟨before, later⟩ := List.pairwise_cons.mp sorted
    simp only [valEntries, dictionaryChildren, first.1, first.2, Bool.false_eq_true, if_false,
      inductionHypothesis later rest]
    cases entries with
    | nil => rfl
    | cons second others => rw [List.orderedInsert, if_pos (before second List.mem_cons_self)]

/-- Numbered children that are restored one by one are restored as an array, gaps included. -/
theorem arrayChildren_range' (count start : Nat) (children : List (Nat × Node))
    (increasing : children.Pairwise fun earlier later => earlier.1 < later.1)
    (within : ∀ child ∈ children, start ≤ child.1 ∧ child.1 < start + count)
    (restored : ∀ child ∈ children, nodeFrom child.2.val = child.2 ∧ child.2.isEmpty = false) :
    arrayChildren start ((List.range' start count).map fun index =>
        ((children.lookup index).map Node.val).getD .null) =
      children.map fun child => (child.1.repr, child.2) := by
  induction count generalizing start children with
  | zero =>
    cases children with
    | nil => rfl
    | cons child _ =>
      have bounds := within child List.mem_cons_self
      omega
  | succ count inductionHypothesis =>
    rw [List.range'_succ, List.map_cons]
    -- where there is no child the array has a null, which is stored as nothing
    have gap : ∀ children : List (Nat × Node), children.lookup start = none →
        (children.Pairwise fun earlier later => earlier.1 < later.1) →
        (∀ child ∈ children, start + 1 ≤ child.1 ∧ child.1 < start + 1 + count) →
        (∀ child ∈ children, nodeFrom child.2.val = child.2 ∧ child.2.isEmpty = false) →
        arrayChildren start ((((children.lookup start).map Node.val).getD .null) ::
            (List.range' (start + 1) count).map fun index => ((children.lookup index).map Node.val).getD .null) =
          children.map fun child => (child.1.repr, child.2) := by
      intro children none increasing within restored
      rw [none, arrayChildren]
      exact inductionHypothesis (start + 1) children increasing within restored
    cases children with
    | nil => exact gap [] rfl .nil (by simp) (by simp)
    | cons child children =>
      obtain ⟨index, node⟩ := child
      obtain ⟨after, increasing'⟩ := List.pairwise_cons.mp increasing
      obtain ⟨⟨least, most⟩, within'⟩ := List.forall_mem_cons.mp within
      obtain ⟨first, restored'⟩ := List.forall_mem_cons.mp restored
      simp only at after least most first
      by_cases here : index = start
      · subst here
        have others : (List.range' (index + 1) count).map (fun position =>
              ((((index, node) :: children).lookup position).map Node.val).getD .null) =
            (List.range' (index + 1) count).map fun position =>
              ((children.lookup position).map Node.val).getD .null := by
          refine List.map_congr_left fun position member => ?_
          have beyond := (List.mem_range'_1.mp member).1
          rw [List.lookup_cons, beq_false_of_ne (by omega)]
        rw [others, List.lookup_cons_self, Option.map_some, Option.getD_some, arrayChildren]
        simp only [first.1, first.2, Bool.false_eq_true, if_false, List.map_cons]
        rw [inductionHypothesis (index + 1) children increasing' ?_ restored']
        intro child member
        have less := after child member
        have bounds := within' child member
        omega
      · have beyond : ∀ child ∈ (index, node) :: children, start + 1 ≤ child.1 ∧ child.1 < start + 1 + count := by
          intro child member
          obtain rfl | member := List.mem_cons.mp member
          · simp only
            omega
          · have less := after child member
            have bounds := within' child member
            omega
        refine gap _ ?_ increasing beyond restored
        rw [List.lookup_eq_none_iff]
        intro child member
        have bounds := beyond child member
        exact bne_iff_ne.mpr (by omega)

theorem le_foldl_max (fields : List (String × Json)) (largest : Nat) :
    largest ≤ fields.foldl (fun largest field => max largest ((integerKey field.1).getD 0)) largest ∧
      ∀ field ∈ fields, (integerKey field.1).getD 0 ≤
        fields.foldl (fun largest field => max largest ((integerKey field.1).getD 0)) largest := by
  induction fields generalizing largest with
  | nil => simp
  | cons field fields inductionHypothesis =>
    obtain ⟨larger, rest⟩ := inductionHypothesis (max largest ((integerKey field.1).getD 0))
    rw [List.foldl_cons]
    refine ⟨(le_max_left _ _).trans larger, fun other member => ?_⟩
    obtain rfl | member := List.mem_cons.mp member
    · exact (le_max_right _ _).trans larger
    · exact rest other member

theorem le_maxKey {fields : List (String × Json)} {field : String × Json} (member : field ∈ fields) :
    (integerKey field.1).getD 0 ≤ maxKey fields :=
  (le_foldl_max fields 0).2 field member

/-- Numbered children, by their numbers. -/
theorem lookup_map_repr (children : List (Nat × Node)) (index : Nat) :
    (children.map fun child => (child.1.repr, child.2)).lookup index.repr = children.lookup index := by
  induction children with
  | nil => rfl
  | cons child children inductionHypothesis =>
    rw [List.map_cons, List.lookup_cons, List.lookup_cons, inductionHypothesis]
    by_cases same : index = child.1
    · simp [same]
    · rw [beq_false_of_ne same, beq_false_of_ne fun keys => same (repr_injective keys)]

/-- The children at the decimal forms of numbers. -/
def atNumbers (children : List (Nat × Node)) : List (String × Node) :=
  children.map fun child => (child.1.repr, child.2)

/-- Children whose keys are all indices are at their numbers. -/
theorem exists_atNumbers {entries : List (String × Node)} (plain : ∀ entry ∈ entries, plainKey entry.1)
    (integers : allIntegerKeys (valEntries entries)) : ∃ children, entries = atNumbers children := by
  refine ⟨entries.map fun entry => ((integerKey entry.1).getD 0, entry.2), ?_⟩
  rw [atNumbers, List.map_map]
  refine ((List.map_congr_left fun entry member => ?_).trans (List.map_id entries)).symm
  have integer := List.all_eq_true.mp integers (entry.1, entry.2.val)
    (by rw [valEntries_eq_map]; exact List.mem_map.mpr ⟨entry, member, rfl⟩)
  obtain ⟨index, read⟩ := Option.isSome_iff_exists.mp integer
  simp only [Function.comp, read, Option.getD_some, ← (integerKey_eq_some (plain entry member)).mp read, id]

theorem le_maxKey_atNumbers {children : List (Nat × Node)} {child : Nat × Node} (member : child ∈ children) :
    child.1 ≤ maxKey (valEntries (atNumbers children)) := by
  have present : (child.1.repr, child.2.val) ∈ valEntries (atNumbers children) := by
    rw [valEntries_eq_map, atNumbers, List.map_map]
    exact List.mem_map.mpr ⟨child, member, rfl⟩
  have least := le_maxKey present
  rwa [integerKey_repr, Option.getD_some] at least

/-- Children at numbers are restored as an array. -/
theorem arrayChildren_atNumbers {children : List (Nat × Node)}
    (sorted : (atNumbers children).Pairwise fun earlier later => keyBefore earlier.1 later.1)
    (small : maxKey (valEntries (atNumbers children)) < 2 ^ 31)
    (restored : ∀ child ∈ children, nodeFrom child.2.val = child.2 ∧ child.2.isEmpty = false) :
    arrayChildren 0 ((List.range (maxKey (valEntries (atNumbers children)) + 1)).map fun index =>
      ((valEntries (atNumbers children)).lookup index.repr).getD .null) = atNumbers children := by
  have increasing : children.Pairwise fun earlier later => earlier.1 < later.1 := by
    refine (List.pairwise_map.mp sorted).imp_of_mem fun first second before => ?_
    have bound := le_maxKey_atNumbers first
    have bound' := le_maxKey_atNumbers second
    exact (keyBefore_repr (by omega) (by omega)).mp before
  have within : ∀ child ∈ children, 0 ≤ child.1 ∧ child.1 < 0 + (maxKey (valEntries (atNumbers children)) + 1) := by
    intro child member
    have bound := le_maxKey_atNumbers member
    omega
  simp only [lookup_valEntries, List.range_eq_range']
  simp only [atNumbers, lookup_map_repr] at within ⊢
  exact arrayChildren_range' _ 0 children increasing within restored

/-- The children of a node in normal form are restored from its value when each of them is. -/
theorem nodeFrom_exportChildren {entries : List (String × Node)}
    (sorted : entries.Pairwise fun earlier later => keyBefore earlier.1 later.1) (few : entries.length ≤ 2 ^ 30)
    (plain : ∀ entry ∈ entries, plainKey entry.1)
    (restored : ∀ entry ∈ entries, nodeFrom entry.2.val = entry.2 ∧ entry.2.isEmpty = false) :
    nodeFrom (exportChildren (valEntries entries)) = .children entries := by
  have length : (valEntries entries).length = entries.length := by rw [valEntries_eq_map, List.length_map]
  unfold exportChildren
  split
  next none =>
    rw [List.isEmpty_iff_length_eq_zero, length, List.length_eq_zero_iff] at none
    rw [none]
    rfl
  next =>
    split
    next array =>
      obtain ⟨integers, dense⟩ := Bool.and_eq_true_iff.mp array
      rw [decide_eq_true_eq, length] at dense
      obtain ⟨children, rfl⟩ := exists_atNumbers plain integers
      rw [nodeFrom, arrayChildren_atNumbers sorted (by omega)]
      exact fun child member => restored (child.1.repr, child.2) (List.mem_map.mpr ⟨child, member, rfl⟩)
    next => rw [nodeFrom, dictionaryChildren_valEntries sorted restored]

mutual
/-- A node in normal form is what its value is stored as. -/
theorem nodeFrom_val (node : Node) (normal : node.Normal) : nodeFrom node.val = node := by
  cases node with
  | leaf value => cases value <;> rfl
  | children entries =>
    obtain ⟨sorted, few, every⟩ := normal
    exact nodeFrom_exportChildren sorted few (fun entry member => (normalEntries_iff.mp every entry member).1)
      (restored_entries entries every)

theorem restored_entries (entries : List (String × Node)) (normal : NormalEntries entries) :
    ∀ entry ∈ entries, nodeFrom entry.2.val = entry.2 ∧ entry.2.isEmpty = false := by
  cases entries with
  | nil => simp
  | cons entry entries =>
    obtain ⟨key, node⟩ := entry
    obtain ⟨_, present, first, rest⟩ := normal
    refine List.forall_mem_cons.mpr ⟨⟨nodeFrom_val node first, present⟩, restored_entries entries rest⟩
end

/-! ## What is written -/

mutual
/-- A value that `setValue` can keep apart: the keys of every dictionary are plain and
can be compared, and nothing in it is too long to be numbered with 32 bits. -/
def Json.Storable : Json → Prop
  | .array items => items.length ≤ 2 ^ 30 ∧ StorableItems items
  | .object fields => (fields.Pairwise fun field other => keyBefore field.1 other.1 ∨ keyBefore other.1 field.1) ∧
      fields.length ≤ 2 ^ 30 ∧ StorableFields fields
  | _ => True

def StorableItems : List Json → Prop
  | [] => True
  | item :: items => item.Storable ∧ StorableItems items

def StorableFields : List (String × Json) → Prop
  | [] => True
  | (key, value) :: fields => plainKey key ∧ value.Storable ∧ StorableFields fields
end

theorem mem_arrayChildren {index : Nat} {items : List Json} {entry : String × Node}
    (member : entry ∈ arrayChildren index items) :
    (∃ position, index ≤ position ∧ position < index + items.length ∧ entry.1 = position.repr) ∧
      ∃ item ∈ items, entry.2 = nodeFrom item ∧ entry.2.isEmpty = false := by
  induction items generalizing index with
  | nil => simp [arrayChildren] at member
  | cons item items inductionHypothesis =>
    have later : entry ∈ arrayChildren (index + 1) items → _ := fun member => inductionHypothesis member
    simp only [arrayChildren] at member
    rw [List.length_cons]
    split at member
    next =>
      obtain ⟨⟨position, least, most, key⟩, other, among, node⟩ := later member
      exact ⟨⟨position, by omega, by omega, key⟩, other, List.mem_cons_of_mem _ among, node⟩
    next present =>
      obtain rfl | member := List.mem_cons.mp member
      · exact ⟨⟨index, le_rfl, by omega, rfl⟩, item, List.mem_cons_self, rfl, by simpa using present⟩
      · obtain ⟨⟨position, least, most, key⟩, other, among, node⟩ := later member
        exact ⟨⟨position, by omega, by omega, key⟩, other, List.mem_cons_of_mem _ among, node⟩

theorem length_arrayChildren_le (index : Nat) (items : List Json) :
    (arrayChildren index items).length ≤ items.length := by
  induction items generalizing index with
  | nil => rfl
  | cons item items inductionHypothesis =>
    have rest := inductionHypothesis (index + 1)
    simp only [arrayChildren, List.length_cons]
    split
    · omega
    · rw [List.length_cons]
      omega

theorem pairwise_arrayChildren {index : Nat} {items : List Json} (small : index + items.length ≤ 2 ^ 31) :
    (arrayChildren index items).Pairwise fun earlier later => keyBefore earlier.1 later.1 := by
  induction items generalizing index with
  | nil => exact .nil
  | cons item items inductionHypothesis =>
    rw [List.length_cons] at small
    have rest := @inductionHypothesis (index + 1) (by omega)
    simp only [arrayChildren]
    split
    · exact rest
    · refine List.pairwise_cons.mpr ⟨fun entry member => ?_, rest⟩
      obtain ⟨⟨position, least, most, key⟩, _⟩ := mem_arrayChildren member
      rw [key]
      exact (keyBefore_repr (by omega) (by omega)).mpr (by omega)

theorem length_dictionaryChildren_le (fields : List (String × Json)) :
    (dictionaryChildren fields).length ≤ fields.length := by
  induction fields with
  | nil => rfl
  | cons field fields inductionHypothesis =>
    simp only [dictionaryChildren, List.length_cons]
    split
    · omega
    · rw [List.orderedInsert_length]
      omega

theorem pairwise_dictionaryChildren {fields : List (String × Json)}
    (comparable : fields.Pairwise fun field other => keyBefore field.1 other.1 ∨ keyBefore other.1 field.1) :
    (dictionaryChildren fields).Pairwise fun earlier later => keyBefore earlier.1 later.1 := by
  induction fields with
  | nil => exact .nil
  | cons field fields inductionHypothesis =>
    obtain ⟨compared, rest⟩ := List.pairwise_cons.mp comparable
    have sorted := inductionHypothesis rest
    simp only [dictionaryChildren]
    split
    · exact sorted
    · have transitive : ∀ first second third : String × Node, keyBefore first.1 second.1 →
          keyBefore second.1 third.1 → keyBefore first.1 third.1 := fun _ _ _ => keyBefore_trans
      refine pairwise_orderedInsert transitive (fun entry member => ?_) sorted
      obtain ⟨value, among, _⟩ := mem_dictionaryChildren.mp member
      exact compared (entry.1, value) among

mutual
/-- Whatever is written is stored in normal form. -/
theorem normal_nodeFrom (json : Json) (storable : json.Storable) : (nodeFrom json).Normal := by
  cases json with
  | null => exact ⟨.nil, by simp, trivial⟩
  | bool _ | number _ | string _ => trivial
  | array items =>
    obtain ⟨few, every⟩ := storable
    refine ⟨pairwise_arrayChildren (by omega), (length_arrayChildren_le 0 items).trans few, ?_⟩
    refine normalEntries_iff.mpr fun entry member => ?_
    obtain ⟨⟨position, _, _, key⟩, item, among, node, present⟩ := mem_arrayChildren member
    exact ⟨key ▸ plainKey_repr position, present, node ▸ normal_items items every item among⟩
  | object fields =>
    obtain ⟨comparable, few, every⟩ := storable
    refine ⟨pairwise_dictionaryChildren comparable, (length_dictionaryChildren_le fields).trans few, ?_⟩
    refine normalEntries_iff.mpr fun entry member => ?_
    obtain ⟨value, among, node, present⟩ := mem_dictionaryChildren.mp member
    obtain ⟨plain, normal⟩ := normal_fields fields every (entry.1, value) among
    exact ⟨plain, present, node ▸ normal⟩

theorem normal_items (items : List Json) (storable : StorableItems items) :
    ∀ item ∈ items, (nodeFrom item).Normal := by
  cases items with
  | nil => simp
  | cons item items =>
    exact List.forall_mem_cons.mpr ⟨normal_nodeFrom item storable.1, normal_items items storable.2⟩

theorem normal_fields (fields : List (String × Json)) (storable : StorableFields fields) :
    ∀ field ∈ fields, plainKey field.1 ∧ (nodeFrom field.2).Normal := by
  cases fields with
  | nil => simp
  | cons field fields =>
    obtain ⟨key, value⟩ := field
    obtain ⟨plain, first, rest⟩ := storable
    exact List.forall_mem_cons.mpr ⟨⟨plain, normal_nodeFrom value first⟩, normal_fields fields rest⟩
end

end Lyv.Firebase
