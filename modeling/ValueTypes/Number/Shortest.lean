/-
  The shortest decimal text of a double.

  The reals that round to a double form an interval around it; its ends belong to it exactly when
  the significand is even.  `Double.shortest` tries the decimal grids of 1, 2, … 17 digits, and on
  each of them only the two neighbours of the number.  The first grid with a neighbour in the
  interval wins, of two the nearer one, and which of two equally near ones is for the writer to say.
  If any point of a grid lies in the interval so does one of the two neighbours, so no shorter
  decimal reads back.

  Everything is counted in quarters of 2^(-1074), in which the ends of the interval are whole.
  `Layout` then says where ties go, where the digits are written out in full and where an exponent
  is used.
-/
import ValueTypes.Number.Double
import ValueTypes.Text.Digit

namespace ValueTypes

/-- A decimal `digits * 10 ^ exponent`. -/
structure Decimal where
  digits : Nat
  exponent : Int
  deriving DecidableEq

namespace Decimal

/-- The same decimal without zeros at the end of its digits, of which there are at most `fuel`. -/
def dropZeros : Nat → Decimal → Decimal
  | 0, d => d
  | fuel + 1, d =>
    if d.digits ≠ 0 ∧ d.digits % 10 = 0 then dropZeros fuel ⟨d.digits / 10, d.exponent + 1⟩ else d

end Decimal

/-- Which of two equally near numbers is taken. -/
inductive Tie where
  | even
  | greater
  deriving DecidableEq

/-- The natural nearest to `num / den`. -/
def Tie.nearest : Tie → Nat → Nat → Nat
  | even, num, den => Double.roundDiv num den
  | greater, num, den => (2 * num + den) / (2 * den)

example : (Tie.even.nearest 5 2, Tie.greater.nearest 5 2) = (2, 3) := by decide

namespace Double

/-- The quarters of a unit that make the number one. -/
def quartersPerOne : Nat := 4 * unitsPerOne

/-- The interval of magnitudes that round to `x`, in quarters, and whether it has its ends.

    Below a power of two the doubles lie twice as close as above it. -/
def interval (x : Double) : Nat × Nat × Bool :=
  let v := 4 * x.units
  let step := pow2 x.shift
  let below := if x.fraction.val = 0 ∧ 1 < x.exponent.val then step else 2 * step
  (v - below, v + 2 * step, x.significand % 2 == 0)

/-- The exponent of ten of the first digit: `10 ^ e ≤ x < 10 ^ (e + 1)`, for a nonzero `x`. -/
def leadingExponent (x : Double) : Int :=
  ((Text.digits (4 * x.units * pow10 340 / quartersPerOne)).length : Int) - 341

/-- The neighbour of `x` among the multiples of `10 ^ p` that rounds to it, the nearer of two. -/
def onGrid (tie : Tie) (x : Double) (p : Int) : Option Decimal :=
  let (low, high, ends) := x.interval
  let up := fun (n : Nat) => n * pow10 (-p).toNat
  let unit := quartersPerOne * pow10 p.toNat
  let inside := fun (d : Nat) =>
    if ends then decide (up low ≤ d * unit) && decide (d * unit ≤ up high)
    else decide (up low < d * unit) && decide (d * unit < up high)
  let v := up (4 * x.units)
  let d := v / unit
  match inside d, inside (d + 1) with
  | true, false => some ⟨d, p⟩
  | false, true => some ⟨d + 1, p⟩
  | false, false => none
  | true, true => some ⟨tie.nearest v unit, p⟩

/-- The decimal of fewest digits that rounds to the magnitude of `x`, and of those the nearest. -/
def shortest (tie : Tie) (x : Double) : Decimal :=
  if x.isZero then ⟨0, 0⟩
  else
    let e := x.leadingExponent
    match (List.range 17).findSome? fun (n : Nat) => x.onGrid tie (e - n) with
    | some d => d.dropZeros 17
    | none => ⟨0, 0⟩

end Double

/-! ## Layout -/

/-- How the digits of a number are laid out. -/
structure Layout where
  /-- Which of two equally near decimals of the fewest digits is written. -/
  tie : Tie
  /-- The exponents of the first digit for which all places are written out. -/
  writtenOut : Int → Bool
  /-- What follows the units of a whole number that is written out. -/
  whole : List Char

namespace Layout

/-- Ties go to the even digit, places are written out from `10 ^ (-5)` up to below `10 ^ 16`, and
    a whole number keeps one zero after the point. -/
def json : Layout := ⟨.even, fun e => decide (-5 ≤ e) && decide (e < 16), ['.', '0']⟩

/-- Ties go up, all places are written out, and a whole number has no point. -/
def plain : Layout := ⟨.greater, fun _ => true, []⟩

/-- The digits `ds`, of which the first stands for `10 ^ e`, with every place written out. -/
def places (l : Layout) (ds : List Char) (e : Int) : List Char :=
  if e < 0 then '0' :: '.' :: List.replicate (-e - 1).toNat '0' ++ ds
  else
    let front := e.toNat + 1
    if ds.length ≤ front then ds ++ List.replicate (front - ds.length) '0' ++ l.whole
    else ds.take front ++ '.' :: ds.drop front

/-- The digits `ds` with one place before the point and the exponent `e`, whose sign is always
    written. -/
def withExponent (ds : List Char) (e : Int) : List Char :=
  let mantissa := match ds with
    | [] => []
    | [d] => [d]
    | d :: rest => d :: '.' :: rest
  mantissa ++ 'e' :: (if e < 0 then '-' else '+') :: Text.digits e.natAbs

/-- The text of a magnitude given as a decimal. -/
def magnitude (l : Layout) (d : Decimal) : List Char :=
  let ds := Text.digits d.digits
  let e := d.exponent + ds.length - 1
  if l.writtenOut e then l.places ds e else withExponent ds e

/-- The text of a number in its shortest digits. -/
def write (l : Layout) (x : Double) : List Char :=
  (if x.negative then ['-'] else []) ++ l.magnitude (x.shortest l.tie)

end Layout

end ValueTypes
