/-
  Numbers read from text.

  An integer is an optional sign and one or more ASCII digits.  A decimal number may also have a
  point, with a digit on at least one side, and an exponent; the names of infinity and of the
  undefined number are numbers too.  A decimal number stands for the nearest double.
-/
import ValueTypes.Number.Double
import ValueTypes.Text.Digit

namespace ValueTypes.Numeral

/-- A leading sign, and what follows it. -/
def splitSign : List Char → Bool × List Char
  | '-' :: cs => (true, cs)
  | '+' :: cs => (false, cs)
  | cs => (false, cs)

/-- The leading ASCII digits, and what follows them. -/
def splitDigits (cs : List Char) : List Char × List Char :=
  (cs.takeWhile Char.isDigit, cs.dropWhile Char.isDigit)

/-- The natural written by one or more ASCII digits and nothing else. -/
def readNat? (cs : List Char) : Option Nat :=
  if cs ≠ [] ∧ cs.all Char.isDigit then some (Text.readDigits 0 cs) else none

/-- The integer written by an optional sign and one or more ASCII digits. -/
def readInt? (cs : List Char) : Option Int :=
  let (negative, ds) := splitSign cs
  (readNat? ds).map fun n => if negative then -(n : Int) else n

/-- An integer that fits a signed 64-bit word. -/
def readSigned? (cs : List Char) : Option Int :=
  (readInt? cs).filter fitsSigned

/-- An integer that fits an unsigned 64-bit word, which takes no minus sign. -/
def readUnsigned? (cs : List Char) : Option Int :=
  if (splitSign cs).1 then none else (readInt? cs).filter fitsUnsigned

/-- What the text of a number stands for. -/
inductive Reading where
  | finite (x : Double)
  | infinite (negative : Bool)
  | undefined

/-- The finite double of a reading. -/
def Reading.toDouble? : Reading → Option Double
  | .finite x => some x
  | _ => none

/-- The number with digits `whole` before and `fraction` after the point, times `10 ^ e`; a number
    too large for a double is infinite. -/
def ofParts (negative : Bool) (whole fraction : List Char) (e : Int) : Reading :=
  match Double.ofDecimal negative (Text.readDigits 0 (whole ++ fraction)) (e - fraction.length) with
  | some x => .finite x
  | none => .infinite negative

/-- The exponent that a text is, from its mark on: zero for the empty text. -/
def readExponent? : List Char → Option Int
  | [] => some 0
  | c :: cs => if c = 'e' ∨ c = 'E' then readInt? cs else none

/-- The fraction digits after a point, and what follows them. -/
def splitFraction : List Char → List Char × List Char
  | '.' :: cs => splitDigits cs
  | cs => ([], cs)

/-- The decimal number that a text without sign is. -/
def readDecimal? (negative : Bool) (cs : List Char) : Option Reading :=
  let (whole, rest) := splitDigits cs
  let (fraction, rest) := splitFraction rest
  if whole = [] ∧ fraction = [] then none
  else (readExponent? rest).map (ofParts negative whole fraction)

/-- The number that a text is. -/
def read? (cs : List Char) : Option Reading :=
  let (negative, rest) := splitSign cs
  let word := String.ofList (rest.map Char.toLower)
  if word = "inf" ∨ word = "infinity" then some (.infinite negative)
  else if word = "nan" then some .undefined
  else readDecimal? negative rest

end ValueTypes.Numeral
