import Mathlib.Data.List.Basic

/-!
# Base64

The standard alphabet with mandatory padding.  Decoding is strict about
characters, length and padding; it ignores the unused low bits of the last
group, so a text that decodes need not be the canonical encoding of its bytes.
-/

namespace Lyv.Library.Base64

def alphabet : List Char :=
  "ABCDEFGHIJKLMNOPQRSTUVWXYZabcdefghijklmnopqrstuvwxyz0123456789+/".toList

def digit (value : Nat) : Char := alphabet.getD value '='

def value? (character : Char) : Option Nat :=
  let position := alphabet.idxOf character
  if position < 64 then some position else none

def byte (value : Nat) : UInt8 := UInt8.ofNat value

/-- Groups of three bytes become four digits; a shorter last group is padded. -/
def encodeChars : List UInt8 → List Char
  | [] => []
  | [a] => [digit (a.toNat / 4), digit (a.toNat % 4 * 16), '=', '=']
  | [a, b] =>
    [digit (a.toNat / 4), digit (a.toNat % 4 * 16 + b.toNat / 16), digit (b.toNat % 16 * 4), '=']
  | a :: b :: c :: rest =>
    digit (a.toNat / 4) :: digit (a.toNat % 4 * 16 + b.toNat / 16) ::
      digit (b.toNat % 16 * 4 + c.toNat / 64) :: digit (c.toNat % 64) :: encodeChars rest

def decodeChars : List Char → Option (List UInt8)
  | [] => some []
  | [a, b, '=', '='] => do
    let a ← value? a
    let b ← value? b
    return [byte (a * 4 + b / 16)]
  | [a, b, c, '='] => do
    let a ← value? a
    let b ← value? b
    let c ← value? c
    return [byte (a * 4 + b / 16), byte (b % 16 * 16 + c / 4)]
  | a :: b :: c :: d :: rest => do
    let a ← value? a
    let b ← value? b
    let c ← value? c
    let d ← value? d
    let bytes ← decodeChars rest
    return byte (a * 4 + b / 16) :: byte (b % 16 * 16 + c / 4) :: byte (c % 4 * 64 + d) :: bytes
  | _ => none

def encode (bytes : List UInt8) : String := String.ofList (encodeChars bytes)

def decode (text : String) : Option (List UInt8) := decodeChars text.toList

theorem value?_digit {value : Nat} (bound : value < 64) : value? (digit value) = some value := by
  have values : ∀ value < 64, value? (digit value) = some value := by decide +kernel
  exact values value bound

theorem digit_ne_pad {value : Nat} (bound : value < 64) : digit value ≠ '=' := by
  have values : ∀ value < 64, digit value ≠ '=' := by decide +kernel
  exact values value bound

theorem byte_toNat (byte' : UInt8) : byte byte'.toNat = byte' := by
  simp [byte]

theorem byte_eq {value : Nat} {expected : UInt8} (equal : value = expected.toNat) :
    byte value = expected := by
  rw [equal, byte_toNat]

theorem decodeChars_encodeChars (bytes : List UInt8) :
    decodeChars (encodeChars bytes) = some bytes := by
  -- on the groups of three bytes; a full group needs a last digit that is no padding
  induction bytes using encodeChars.induct with
  | case1 => rfl
  | case2 a =>
    have := a.toNat_lt
    rw [encodeChars, decodeChars, value?_digit (by omega), value?_digit (by omega)]
    simp only [Option.bind_eq_bind, Option.bind_some, Option.pure_def, Option.some.injEq,
      List.cons.injEq, and_true]
    exact byte_eq (by omega)
  | case3 a b =>
    have := a.toNat_lt
    have := b.toNat_lt
    have notPad : digit (b.toNat % 16 * 4) ≠ '=' := digit_ne_pad (by omega)
    rw [encodeChars, decodeChars, value?_digit (by omega), value?_digit (by omega),
      value?_digit (by omega)]
    · simp only [Option.bind_eq_bind, Option.bind_some, Option.pure_def, Option.some.injEq,
        List.cons.injEq, and_true]
      exact ⟨byte_eq (by omega), byte_eq (by omega)⟩
    · simpa using notPad
  | case4 a b c rest inductionHypothesis =>
    have := a.toNat_lt
    have := b.toNat_lt
    have := c.toNat_lt
    have notPad : digit (c.toNat % 64) ≠ '=' := digit_ne_pad (by omega)
    rw [encodeChars, decodeChars, value?_digit (by omega), value?_digit (by omega),
      value?_digit (by omega), value?_digit (by omega), inductionHypothesis]
    · simp only [Option.bind_eq_bind, Option.bind_some, Option.pure_def, Option.some.injEq,
        List.cons.injEq, and_true]
      exact ⟨byte_eq (by omega), byte_eq (by omega), byte_eq (by omega)⟩
    · intro _ equal
      exact absurd equal notPad
    · intro equal
      exact absurd equal notPad

/-- Decoding inverts encoding, for every list of bytes. -/
@[simp] theorem decode_encode (bytes : List UInt8) : decode (encode bytes) = some bytes := by
  simp [decode, encode, decodeChars_encodeChars]

end Lyv.Library.Base64
