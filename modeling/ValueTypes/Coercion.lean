/-
  The conversions of the coercible types.

  Each conversion turns some values of a neighbouring shape into values of its own, refuses others,
  and leaves everything else as it is, so that the check after it decides.  A text is converted
  without the blanks around it, but an error shows it as it was.
-/
import ValueTypes.Kind
import ValueTypes.TypeError
import ValueTypes.Number.Numeral
import ValueTypes.Text.Blank

namespace ValueTypes

/-- The three conversions. -/
inductive Coercion where
  | toText | toInteger | toFloat
  deriving DecidableEq

namespace Coercion

/-- The kind of value that a conversion leads to. -/
def kind : Coercion → Kind
  | toText => .string
  | toInteger => .integer
  | toFloat => .float

def refuse (c : Coercion) (v : Value) : Except TypeError Value :=
  .error (.invalidValue none v c.kind.name)

/-- The integer that a text is: a signed 64-bit one, or an unsigned one beyond. -/
def readInteger? (s : String) : Option Int :=
  let cs := Text.trim s.toList
  match Numeral.readSigned? cs with
  | some n => some n
  | none => Numeral.readUnsigned? cs

/-- The integer that a double is, if it fits a signed 64-bit word.

    The greatest word is no double: the one nearest to it is `2 ^ 63`, which does not fit. -/
def wholeInteger? (x : Double) : Option Int :=
  if x.isWhole && (Double.ofWord minSigned).le x && x.lt (Double.ofWord maxSigned) then
    some (clampSigned x.truncate)
  else none

/-- The finite double that a text is. -/
def readFloat? (s : String) : Option Double :=
  (Numeral.read? (Text.trim s.toList)).bind Numeral.Reading.toDouble?

def apply : Coercion → Value → Except TypeError Value
  | toText, .int n => .ok (.str (String.ofList (Json.writeInt n)))
  | toText, .float x => .ok (.str (String.ofList (Layout.json.write x)))
  | toText, .bool b => .ok (.str (if b then "true" else "false"))
  | toText, v => .ok v
  | toInteger, .str s =>
    match readInteger? s with
    | some n => .ok (.int n)
    | none => toInteger.refuse (.str s)
  | toInteger, .float x =>
    match wholeInteger? x with
    | some n => .ok (.int n)
    | none => toInteger.refuse (.float x)
  | toInteger, v => .ok v
  | toFloat, .str s =>
    match readFloat? s with
    | some x => .ok (.float x)
    | none => toFloat.refuse (.str s)
  | toFloat, v => .ok v

end Coercion

end ValueTypes
