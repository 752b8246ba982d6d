import Lyv.Library.FloatFormat

/-!
# Decimal notation

Writing a rational with a fixed number of decimals, and reading it back.  What is
read is the decimal next to the rational, a tie going to the even one, so that
writing loses at most half a unit in the last place.
-/

namespace Lyv.Library.Decimal

/-- The digits of a number, with zeros in front up to the width. -/
def padded (width count : Nat) : List Char := (Nat.toDigits 10 count).leftpad width '0'

/-- The value in units of the last place, without its sign. -/
def units (places : Nat) (value : ℚ) : Nat := FloatFormat.nearest (|value| * 10 ^ places)

/-- The notation of `printf` for `%.<places>f`. -/
def fixed (places : Nat) (value : ℚ) : String :=
  String.ofList ((if value < 0 then ['-'] else []) ++ Nat.toDigits 10 (units places value / 10 ^ places) ++
    if places = 0 then [] else '.' :: padded places (units places value % 10 ^ places))

/-- The decimal that is written. -/
def rounded (places : Nat) (value : ℚ) : ℚ :=
  (if value < 0 then -(units places value : ℚ) else units places value) / 10 ^ places

/-- Digits, and perhaps a point and more digits; some digit there must be. -/
def magnitude (text : List Char) : Option ℚ :=
  let whole := text.takeWhile Char.isDigit
  let value : ℚ := Nat.ofDigitChars 10 whole 0
  match text.dropWhile Char.isDigit with
  | [] => if whole = [] then none else some value
  | '.' :: fraction =>
    if fraction.all Char.isDigit ∧ (whole ≠ [] ∨ fraction ≠ []) then
      some (value + Nat.ofDigitChars 10 fraction 0 / 10 ^ fraction.length)
    else none
  | _ => none

/-- The value of a decimal text. -/
def parse (text : String) : Option ℚ :=
  match text.toList with
  | '-' :: digits => (magnitude digits).map fun value => -value
  | '+' :: digits => magnitude digits
  | digits => magnitude digits

/-! ## Digits -/

@[simp] theorem ofDigitChars_padded (width count : Nat) : Nat.ofDigitChars 10 (padded width count) 0 = count := by
  rw [padded, List.leftpad, Nat.ofDigitChars_append, Nat.ofDigitChars_replicate_zero, Nat.mul_zero,
    Nat.ofDigitChars_ten_toDigits]

theorem isDigit_of_mem_padded {width count : Nat} {character : Char} (member : character ∈ padded width count) :
    character.isDigit := by
  obtain zero | digit := List.mem_append.mp member
  · obtain rfl := List.eq_of_mem_replicate zero
    rfl
  · exact Nat.isDigit_of_mem_toDigits (by omega) (by omega) digit

/-- A number that is short enough takes up the width. -/
theorem length_padded {width count : Nat} (positive : 0 < width) (short : count < 10 ^ width) :
    (padded width count).length = width := by
  have fits := (Nat.length_toDigits_le_iff (by omega) positive).mpr short
  rw [padded, List.length_leftpad]
  omega

theorem takeWhile_toDigits (count : Nat) (rest : List Char) :
    (Nat.toDigits 10 count ++ rest).takeWhile Char.isDigit = Nat.toDigits 10 count ++ rest.takeWhile Char.isDigit :=
  List.takeWhile_append_of_pos fun _ member => Nat.isDigit_of_mem_toDigits (by omega) (by omega) member

theorem dropWhile_toDigits (count : Nat) (rest : List Char) :
    (Nat.toDigits 10 count ++ rest).dropWhile Char.isDigit = rest.dropWhile Char.isDigit :=
  List.dropWhile_append_of_pos fun _ member => Nat.isDigit_of_mem_toDigits (by omega) (by omega) member

theorem toDigits_ne_nil (count : Nat) : Nat.toDigits 10 count ≠ [] :=
  List.ne_nil_of_length_pos Nat.length_toDigits_pos

/-- What is read from digits with a fraction. -/
theorem magnitude_fraction (whole places count : Nat) (short : count < 10 ^ places) :
    magnitude (Nat.toDigits 10 whole ++ if places = 0 then [] else '.' :: padded places count) =
      some ((whole : ℚ) + count / 10 ^ places) := by
  have digits := takeWhile_toDigits whole
  have after := dropWhile_toDigits whole
  by_cases none : places = 0
  · subst none
    obtain rfl : count = 0 := by omega
    rw [if_pos rfl, magnitude, digits, after]
    simp [Nat.ofDigitChars_ten_toDigits]
  · have length := length_padded (by omega) short
    have fraction : (padded places count).all Char.isDigit := by
      rw [List.all_eq_true]
      exact fun _ member => isDigit_of_mem_padded member
    have point : Char.isDigit '.' = false := rfl
    rw [if_neg none, magnitude, digits, after]
    simp only [List.takeWhile_cons, List.dropWhile_cons, point, Bool.false_eq_true, if_false, List.append_nil,
      fraction, toDigits_ne_nil, ne_eq, not_false_eq_true, true_or, and_self, if_true, length, ofDigitChars_padded,
      Nat.ofDigitChars_ten_toDigits]

/-- A text that begins with a digit has no sign. -/
theorem parse_toDigits (whole : Nat) (rest : List Char) :
    parse (String.ofList (Nat.toDigits 10 whole ++ rest)) = magnitude (Nat.toDigits 10 whole ++ rest) := by
  obtain ⟨first, others, digits⟩ := List.exists_cons_of_ne_nil (toDigits_ne_nil whole)
  have digit : first.isDigit := by
    refine Nat.isDigit_of_mem_toDigits (b := 10) (n := whole) (by omega) (by omega) ?_
    rw [digits]
    exact List.mem_cons_self
  rw [digits, List.cons_append, parse, String.toList_ofList]
  split
  next same =>
    obtain rfl := (List.cons.inj same).1
    contradiction
  next same =>
    obtain rfl := (List.cons.inj same).1
    contradiction
  next => rfl

/-- What is written is read back as the decimal next to the value. -/
theorem parse_fixed (places : Nat) (value : ℚ) : parse (fixed places value) = some (rounded places value) := by
  have positive : 0 < 10 ^ places := by positivity
  have short : units places value % 10 ^ places < 10 ^ places := Nat.mod_lt _ positive
  have split : ((units places value / 10 ^ places : Nat) : ℚ) + (units places value % 10 ^ places : Nat) / 10 ^ places =
      units places value / 10 ^ places := by
    rw [eq_div_iff (by positivity), add_mul, div_mul_cancel₀ _ (by positivity)]
    exact_mod_cast Nat.div_add_mod' (units places value) (10 ^ places)
  have read := magnitude_fraction (units places value / 10 ^ places) places _ short
  rw [split] at read
  by_cases negative : value < 0
  · rw [fixed, rounded, if_pos negative, if_pos negative, neg_div, List.singleton_append, List.cons_append, parse,
      String.toList_ofList]
    simp only [read, Option.map_some]
  · rw [fixed, rounded, if_neg negative, if_neg negative, List.nil_append, parse_toDigits, read]

/-! ## The decimal next to a value -/

/-- Writing loses at most half a unit in the last place. -/
theorem abs_rounded_sub_le (places : Nat) (value : ℚ) : |rounded places value - value| ≤ 1 / (2 * 10 ^ places) := by
  have scale : (0 : ℚ) < 10 ^ places := by positivity
  have error := FloatFormat.abs_nearest_sub_le (mul_nonneg (abs_nonneg value) scale.le)
  have within : |(units places value : ℚ) / 10 ^ places - (|value|)| ≤ 1 / (2 * 10 ^ places) := by
    calc |(units places value : ℚ) / 10 ^ places - (|value|)|
        = |(units places value : ℚ) - |value| * 10 ^ places| / 10 ^ places := by
          rw [← abs_of_pos scale, ← abs_div, abs_of_pos scale, sub_div, mul_div_cancel_right₀ _ scale.ne']
      _ ≤ (1 / 2) / 10 ^ places := by gcongr; exact error
      _ = 1 / (2 * 10 ^ places) := by rw [div_div]
  by_cases negative : value < 0
  · rw [abs_of_neg negative] at within
    rw [rounded, if_pos negative, abs_sub_comm, neg_div, sub_neg_eq_add, add_comm]
    exact (sub_neg_eq_add _ value) ▸ within
  · rw [abs_of_nonneg (not_lt.mp negative)] at within
    rw [rounded, if_neg negative]
    exact within

/-- The decimals are in the order of the values. -/
theorem rounded_mono (places : Nat) {value other : ℚ} (le : value ≤ other) :
    rounded places value ≤ rounded places other := by
  have scale : (0 : ℚ) < 10 ^ places := by positivity
  refine div_le_div_of_nonneg_right ?_ scale.le
  by_cases below : value < 0
  · by_cases below' : other < 0
    · have counts : units places other ≤ units places value := by
        refine FloatFormat.nearest_mono (mul_le_mul_of_nonneg_right ?_ scale.le)
        rw [abs_of_neg below, abs_of_neg below']
        exact neg_le_neg le
      rw [if_pos below, if_pos below']
      exact neg_le_neg (by exact_mod_cast counts)
    · have first : (0 : ℚ) ≤ units places value := Nat.cast_nonneg _
      have second : (0 : ℚ) ≤ units places other := Nat.cast_nonneg _
      rw [if_pos below, if_neg below']
      linarith
  · have above' : ¬ other < 0 := fun below' => below (lt_of_le_of_lt le below')
    have counts : units places value ≤ units places other := by
      refine FloatFormat.nearest_mono (mul_le_mul_of_nonneg_right ?_ scale.le)
      rw [abs_of_nonneg (not_lt.mp below), abs_of_nonneg (not_lt.mp above')]
      exact le
    rw [if_neg below, if_neg above']
    exact_mod_cast counts

end Lyv.Library.Decimal
