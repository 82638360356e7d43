/-
  Decimal digits.  Numbers are written with the ten ASCII digits; a digit of any script still
  counts as a digit where names are cut into words.
-/
import ValueTypes.Text.DigitTable

namespace ValueTypes.Text

/-- Whether `c` is a decimal digit of some script. -/
def isDecimalDigit (c : Char) : Bool := decimalDigits.contains c

/-- The value of an ASCII digit. -/
def digitValue (c : Char) : Nat := c.toNat - '0'.toNat

/-- The ASCII digit of value `n`, for `n < 10`. -/
def digitChar (n : Nat) : Char := Char.ofNat ('0'.toNat + n)

/-- The number written by ASCII digits, read on from `acc`. -/
def readDigits (acc : Nat) (cs : List Char) : Nat :=
  cs.foldl (fun n c => 10 * n + digitValue c) acc

/-- The decimal digits of a number, without leading zeros. -/
def digits (n : Nat) : List Char := Nat.toDigits 10 n

end ValueTypes.Text
