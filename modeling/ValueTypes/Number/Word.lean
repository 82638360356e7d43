/-
  Integers of 64 bits, signed and unsigned, and the powers that numbers are scaled by.
-/

namespace ValueTypes

/-! ## Words -/

/-- Whether an integer fits a signed word of 64 bits: it lies from `-2 ^ 63` up to below `2 ^ 63`. -/
def fitsSigned (n : Int) : Bool :=
  decide (-9223372036854775808 ≤ n) && decide (n < 9223372036854775808)

/-- Whether an integer fits an unsigned word of 64 bits: it lies from zero up to below `2 ^ 64`. -/
def fitsUnsigned (n : Int) : Bool := decide (0 ≤ n) && decide (n < 18446744073709551616)

/-- The signed words are the integers from -2^63 to below 2^63. -/
theorem fitsSigned_iff {n : Int} :
    fitsSigned n = true ↔ -9223372036854775808 ≤ n ∧ n < 9223372036854775808 := by
  simp [fitsSigned]

/-- The unsigned words are the integers from 0 to below 2^64. -/
theorem fitsUnsigned_iff {n : Int} :
    fitsUnsigned n = true ↔ 0 ≤ n ∧ n < 18446744073709551616 := by
  simp [fitsUnsigned]

/-- The least integer that fits a signed word. -/
def minSigned : Int := -9223372036854775808

/-- The greatest integer that fits a signed word. -/
def maxSigned : Int := 9223372036854775807

/-- The signed word nearest to an integer. -/
def clampSigned (n : Int) : Int :=
  if n < minSigned then minSigned else if maxSigned < n then maxSigned else n

/-- An integer that fits is its own nearest word. -/
theorem clampSigned_of_fits {n : Int} (h : fitsSigned n = true) : clampSigned n = n := by
  have hrange := fitsSigned_iff.1 h
  rw [clampSigned, minSigned, maxSigned, if_neg (by omega), if_neg (by omega)]

/-! ## Powers -/

/-- The power of two with exponent `k`. -/
def pow2 (k : Nat) : Nat := Nat.pow 2 k

/-- The power of ten with exponent `k`. -/
def pow10 (k : Nat) : Nat := Nat.pow 10 k

theorem pow2_pos (k : Nat) : 0 < pow2 k := Nat.pow_pos (by decide)

end ValueTypes
