/-
  Numbers in JSON text.

  A number without fraction and exponent is an integer if it fits 64 bits, signed or unsigned;
  minus zero is the negative zero.  Every other number is a double, and it is made in two steps of
  double arithmetic: the leading digits that fit an unsigned 64-bit word are taken as a whole number,
  and that number is multiplied or divided by a power of ten.  Each step rounds, so the result may
  be off the nearest double by one place.  A number too large for a double is refused.
-/
import ValueTypes.Value
import ValueTypes.Number.Numeral

namespace ValueTypes.Json

/-- The number of the leading digits that fit an unsigned word together with the number `n` before
    them, and the digits that do not. -/
def takeWord (n : Nat) : List Char → Nat × List Char
  | [] => (n, [])
  | c :: cs =>
    let m := 10 * n + Text.digitValue c
    if fitsUnsigned m then takeWord m cs else (n, c :: cs)

/-- The largest power of ten that is a double. -/
def maxPower : Nat := 308

/-- The double nearest to a power of ten. -/
def powerOfTen (k : Nat) : Double := (Double.ofDecimal false 1 k).getD (.zero false)

/-- The number divided `n` times by the largest power of ten, until it is zero. -/
def shrink : Nat → Double → Option Double
  | 0, x => some x
  | n + 1, x => if x.isZero then some x else (x.div? (powerOfTen maxPower)).bind (shrink n)

/-- The number divided by `10 ^ k`, in steps that doubles can take. -/
def scaleDown (x : Double) (k : Nat) : Option Double :=
  let steps := (k - 1) / maxPower
  (shrink steps x).bind fun y => y.div? (powerOfTen (k - steps * maxPower))

/-- The number multiplied by `10 ^ e`. -/
def scale (x : Double) (e : Int) : Option Double :=
  if e < 0 then scaleDown x (-e).toNat
  else if e.toNat ≤ maxPower then x.mul? (powerOfTen e.toNat)
  else if x.isZero then some x
  else none

/-- The value of a number with digits `whole` before and `fraction` after the point, times
    `10 ^ e`, which is no integer. -/
def realValue? (negative : Bool) (whole fraction : List Char) (e : Int) : Option Value :=
  let (n, skipped) := takeWord 0 whole
  let (n, dropped) := takeWord n fraction
  let e := e + skipped.length - (fraction.length - dropped.length : Nat)
  ((Double.ofDecimal false n 0).bind fun x => scale x e).map fun x => .float (x.withSign negative)

/-- The value of a whole number. -/
def wholeValue? (negative : Bool) (whole : List Char) : Option Value :=
  let n := Text.readDigits 0 whole
  if !fitsUnsigned n then realValue? negative whole [] 0
  else if !negative then some (.int n)
  else if n ≠ 0 ∧ fitsSigned (-(n : Int)) then some (.int (-(n : Int)))
  else (Double.ofDecimal true n 0).map .float

/-- The exponent digits after a mark and an optional sign, and what follows them. -/
def readExponent? (cs : List Char) : Option (Int × List Char) :=
  let (negative, rest) := Numeral.splitSign cs
  let (ds, rest) := Numeral.splitDigits rest
  if ds = [] then none
  else
    let n : Int := (Text.readDigits 0 ds : Nat)
    some (if negative then -n else n, rest)

/-- The digits after a point, if there is a point, and what follows them. -/
def readFraction? : List Char → Option (Option (List Char) × List Char)
  | '.' :: cs =>
    let (ds, rest) := Numeral.splitDigits cs
    if ds = [] then none else some (some ds, rest)
  | cs => some (none, cs)

/-- The exponent of a number, if it has one, and what follows it. -/
def readPower? : List Char → Option (Option Int × List Char)
  | c :: cs =>
    if c = 'e' ∨ c = 'E' then (readExponent? cs).map fun r => (some r.1, r.2)
    else some (none, c :: cs)
  | [] => some (none, [])

/-- The number at the start of the text, and what follows it. -/
def readNumber? (cs : List Char) : Option (Value × List Char) := do
  let (negative, rest) := match cs with
    | '-' :: rest => (true, rest)
    | cs => (false, cs)
  let (whole, rest) := Numeral.splitDigits rest
  if whole = [] ∨ (whole.head? = some '0' ∧ whole ≠ ['0']) then none
  else
    let (fraction, rest) ← readFraction? rest
    let (power, rest) ← readPower? rest
    let v ← match fraction, power with
      | none, none => wholeValue? negative whole
      | fraction, power => realValue? negative whole (fraction.getD []) (power.getD 0)
    some (v, rest)

end ValueTypes.Json
