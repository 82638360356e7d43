/-
  Finite double-precision numbers, by their fields.

  A number is a sign, an exponent below 2047 and a fraction below 2^52, so every value of the type
  is finite and every finite double has one.  All arithmetic on them is exact arithmetic on naturals
  in units of the least positive double, 2^(-1074): `Double.units` counts how many of them the
  magnitude holds.  `Double.ofQuotient` goes back: the double nearest to a quotient of naturals,
  a tie going to the even significand.
-/
import ValueTypes.Number.Word

namespace ValueTypes

/-- The fractions of doubles lie below `2 ^ 52`. -/
abbrev Double.fractions : Nat := 4503599627370496

/-- A finite double-precision number. -/
structure Double where
  negative : Bool
  exponent : Fin 2047
  fraction : Fin Double.fractions
  deriving DecidableEq

namespace Double

/-- Zero, positive or negative. -/
def zero (negative : Bool) : Double := ⟨negative, 0, 0⟩

def isZero (x : Double) : Bool := x.exponent.val == 0 && x.fraction.val == 0

/-- The integer of at most 53 bits whose multiple by a power of two is the magnitude. -/
def significand (x : Double) : Nat :=
  if x.exponent.val = 0 then x.fraction.val else fractions + x.fraction.val

/-- The power of two, in units, that one step of the significand is worth. -/
def shift (x : Double) : Nat := x.exponent.val - 1

/-- The magnitude in units of 2^(-1074). -/
def units (x : Double) : Nat := x.significand * pow2 x.shift

/-- How many units make the number one. -/
def unitsPerOne : Nat := pow2 1074

/-- Whether the number is whole. -/
def isWhole (x : Double) : Bool := x.units % unitsPerOne == 0

/-- The number without its fraction. -/
def truncate (x : Double) : Int :=
  let n : Int := (x.units / unitsPerOne : Nat)
  if x.negative then -n else n

/-- The same number: both zeros are one. -/
def same (x y : Double) : Bool := x == y || (x.isZero && y.isZero)

/-- The number in units of 2^(-1074). -/
def signedUnits (x : Double) : Int := if x.negative then -(x.units : Int) else x.units

def le (x y : Double) : Bool := decide (x.signedUnits ≤ y.signedUnits)

def lt (x y : Double) : Bool := decide (x.signedUnits < y.signedUnits)

/-! ## Rounding -/

/-- The natural nearest to `num / den`, a tie going to the even one. -/
def roundDiv (num den : Nat) : Nat :=
  let q := num / den
  let r := num % den
  if 2 * r < den then q else if den < 2 * r then q + 1 else q + q % 2

/-- The double of magnitude `m * 2 ^ k` units, for `m ≤ 2 ^ 53`; none if it is out of range. -/
def ofScaled (negative : Bool) (m k : Nat) : Option Double :=
  if h : m < fractions then some ⟨negative, 0, ⟨m, h⟩⟩
  else
    let (m, k) := if m = 2 * fractions then (fractions, k + 1) else (m, k)
    if h : k + 1 < 2047 then
      some ⟨negative, ⟨k + 1, h⟩, ⟨(m - fractions) % fractions, Nat.mod_lt _ (by decide)⟩⟩
    else none

/-- The double nearest to `num / den` in magnitude, or none if it is too large for one. -/
def ofQuotient (negative : Bool) (num den : Nat) : Option Double :=
  let num := num * unitsPerOne
  let k := (num / den).log2 - 52
  ofScaled negative (roundDiv num (den * pow2 k)) k

/-- The double nearest to `m * 10 ^ e` in magnitude, or none if it is too large for one.

    A power of ten that no double can balance is not computed: beyond `10 ^ 310` every nonzero
    multiple is too large, and `m * 10 ^ e` below `2 ^ (-1076)` is nearest to zero. -/
def ofDecimal (negative : Bool) (m : Nat) (e : Int) : Option Double :=
  if m = 0 then some (zero negative)
  else if 310 < e then none
  else if (m.log2 : Int) + 1077 < -3 * e then some (zero negative)
  else if 0 ≤ e then ofQuotient negative (m * pow10 e.toNat) 1
  else ofQuotient negative m (pow10 (-e).toNat)

/-- The double nearest to a word. -/
def ofWord (n : Int) : Double := (ofQuotient (decide (n < 0)) n.natAbs 1).getD (zero false)

/-! ## Products and quotients -/

/-- The product, rounded; none if it is too large. -/
def mul? (x y : Double) : Option Double :=
  ofQuotient (x.negative != y.negative) (x.units * y.units) (unitsPerOne * unitsPerOne)

/-- The quotient by a number other than zero, rounded; none if it is too large. -/
def div? (x y : Double) : Option Double :=
  ofQuotient (x.negative != y.negative) x.units y.units

def withSign (negative : Bool) (x : Double) : Double := { x with negative := negative }

end Double

end ValueTypes
