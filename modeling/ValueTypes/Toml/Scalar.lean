/-
  Numbers, dates and truth values in TOML.

  Digits may be parted by single underscores.  An integer is decimal without leading zeros, or
  hexadecimal, octal or binary without sign, and fits a signed 64-bit word.  A date is checked
  against the calendar and kept as text in its usual form.
-/
import ValueTypes.Toml.Text
import ValueTypes.Setting

namespace ValueTypes.Toml

/-- A value that holds no others. -/
inductive Scalar where
  | plain (v : Setting)
  /-- A date or a time in its usual form. -/
  | moment (text : String)

/-- The setting that a scalar is. -/
def Scalar.setting : Scalar → Setting
  | plain v => v
  | moment text => .text text

/-! ## Integers and floats -/

/-- Digits parted by single underscores, without them, and what follows. -/
def readDigits? (isDigit : Char → Bool) : List Char → Option (List Char × List Char)
  | '_' :: d :: rest =>
    if isDigit d then (readDigits? isDigit rest).map fun r => (d :: r.1, r.2) else none
  | ['_'] => none
  | c :: rest =>
    if isDigit c then (readDigits? isDigit rest).map fun r => (c :: r.1, r.2)
    else some ([], c :: rest)
  | [] => some ([], [])

/-- One digit, and more after it. -/
def readRun? (isDigit : Char → Bool) : List Char → Option (List Char × List Char)
  | c :: rest =>
    if isDigit c then (readDigits? isDigit rest).map fun r => (c :: r.1, r.2) else none
  | [] => none

/-- The digits before a point: a lone zero, or digits that start with another. -/
def readWhole? : List Char → Option (List Char × List Char)
  | '0' :: rest => some (['0'], rest)
  | cs => readRun? Char.isDigit cs

/-- A value that must lie within a signed 64-bit word. -/
def word? (n : Int) : Option Setting :=
  if fitsSigned n then some (.int n) else none

def isHexDigit (c : Char) : Bool := (Json.hexValue? c).isSome

/-- The number written by digits in a base. -/
def inBase (base : Nat) (ds : List Char) : Int :=
  (ds.foldl (fun n c => base * n + (Json.hexValue? c).getD 0) 0 : Nat)

/-- An integer in another base, after its two-character mark. -/
def readBase? (base : Nat) (isDigit : Char → Bool) (cs : List Char) :
    Option (Setting × List Char) := do
  let (ds, rest) ← readRun? isDigit cs
  let v ← word? (inBase base ds)
  some (v, rest)

/-- The value of a float; one too large is refused unless it is negative. -/
def float? (negative : Bool) (whole fraction : List Char) (e : Int) : Option Setting :=
  match Numeral.ofParts negative whole fraction e with
  | .infinite false => none
  | x => some (.float x)

/-- The exponent after its mark, and what follows. -/
def readExponent? (cs : List Char) : Option (Int × List Char) := do
  let (negative, rest) := Numeral.splitSign cs
  let (ds, rest) ← readRun? Char.isDigit rest
  let n : Int := (Text.readDigits 0 ds : Nat)
  some (if negative then -n else n, rest)

def isExponentMark (c : Char) : Bool := c == 'e' || c == 'E'

/-- A number without its sign, and what follows. -/
def readUnsigned? (negative : Bool) (cs : List Char) : Option (Setting × List Char) := do
  let (whole, rest) ← readWhole? cs
  match rest with
  | '.' :: rest =>
    let (fraction, rest) ← readRun? Char.isDigit rest
    match rest with
    | c :: more =>
      if isExponentMark c then
        let (e, rest) ← readExponent? more
        (float? negative whole fraction e).map (·, rest)
      else (float? negative whole fraction 0).map (·, rest)
    | [] => (float? negative whole fraction 0).map (·, [])
  | c :: more =>
    if isExponentMark c then
      let (e, rest) ← readExponent? more
      (float? negative whole [] e).map (·, rest)
    else
      let n : Int := (Text.readDigits 0 whole : Nat)
      (word? (if negative then -n else n)).map (·, rest)
  | [] =>
    let n : Int := (Text.readDigits 0 whole : Nat)
    (word? (if negative then -n else n)).map (·, [])

/-- A number, and what follows. -/
def readNumber? (cs : List Char) : Option (Setting × List Char) :=
  match cs with
  | '0' :: 'x' :: rest => readBase? 16 isHexDigit rest
  | '0' :: 'o' :: rest => readBase? 8 (fun c => decide ('0' ≤ c) && decide (c ≤ '7')) rest
  | '0' :: 'b' :: rest => readBase? 2 (fun c => c == '0' || c == '1') rest
  | _ =>
    let (negative, rest) := Numeral.splitSign cs
    match rest with
    | 'i' :: 'n' :: 'f' :: rest => some (.float (.infinite negative), rest)
    | 'n' :: 'a' :: 'n' :: rest => some (.float .undefined, rest)
    | rest => readUnsigned? negative rest

/-! ## Dates and times -/

/-- A number of exactly `n` digits, and what follows. -/
def readFixed? (n : Nat) (cs : List Char) : Option (Nat × List Char) :=
  let ds := cs.take n
  if ds.length = n ∧ ds.all Char.isDigit then some (Text.readDigits 0 ds, cs.drop n) else none

/-- A number of two digits in a range, and what follows. -/
def readPair? (low high : Nat) (cs : List Char) : Option (Nat × List Char) :=
  (readFixed? 2 cs).filter fun r => decide (low ≤ r.1) && decide (r.1 ≤ high)

def expect? (c : Char) : List Char → Option (List Char)
  | d :: rest => if c = d then some rest else none
  | [] => none

def isLeapYear (y : Nat) : Bool := y % 4 == 0 && (y % 100 != 0 || y % 400 == 0)

def daysInMonth (year month : Nat) : Nat :=
  if month = 2 then if isLeapYear year then 29 else 28
  else if month = 4 ∨ month = 6 ∨ month = 9 ∨ month = 11 then 30
  else 31

/-- The digits of a number with zeros in front up to a width. -/
def padded (width n : Nat) : List Char :=
  let ds := Text.digits n
  List.replicate (width - ds.length) '0' ++ ds

/-- A date, as text, and what follows. -/
def readDate? (cs : List Char) : Option (List Char × List Char) := do
  let (year, cs) ← readFixed? 4 cs
  let (month, cs) ← readPair? 1 12 (← expect? '-' cs)
  let (day, cs) ← readPair? 1 (daysInMonth year month) (← expect? '-' cs)
  some (padded 4 year ++ '-' :: padded 2 month ++ '-' :: padded 2 day, cs)

/-- The digits of a fraction of a second, cut after the ninth and without zeros at the end. -/
def fractionText (ds : List Char) : List Char :=
  let ds := ((ds.take 9).reverse.dropWhile (· == '0')).reverse
  if ds = [] then [] else '.' :: ds

/-- A time of day, as text, and what follows.  A minute may have a leap second. -/
def readTime? (cs : List Char) : Option (List Char × List Char) := do
  let (hour, cs) ← readPair? 0 23 cs
  let (minute, cs) ← readPair? 0 59 (← expect? ':' cs)
  let (second, cs) ← readPair? 0 60 (← expect? ':' cs)
  let text := padded 2 hour ++ ':' :: padded 2 minute ++ ':' :: padded 2 second
  match cs with
  | '.' :: rest =>
    let (ds, rest) := Numeral.splitDigits rest
    if ds = [] then none else some (text ++ fractionText ds, rest)
  | cs => some (text, cs)

/-- The text of an offset of some minutes. -/
def offsetText (negative : Bool) (minutes : Nat) : List Char :=
  (if negative ∧ minutes ≠ 0 then '-' else '+') ::
    padded 2 (minutes / 60) ++ ':' :: padded 2 (minutes % 60)

/-- The offset of a time from the prime meridian, as text, and what follows. -/
def readOffset? (cs : List Char) : Option (List Char × List Char) :=
  match cs with
  | c :: rest =>
    if c = 'Z' ∨ c = 'z' then some (['Z'], rest)
    else if c = '+' ∨ c = '-' then do
      let (hour, rest) ← readPair? 0 23 rest
      let (minute, rest) ← readPair? 0 59 (← expect? ':' rest)
      some (offsetText (c == '-') (60 * hour + minute), rest)
    else some ([], cs)
  | [] => some ([], [])

/-- Whether a date starts here: four digits and a dash. -/
def startsDate (cs : List Char) : Bool :=
  (cs.take 4).length == 4 && (cs.take 4).all Char.isDigit && (cs.drop 4).head? == some '-'

/-- Whether a time starts here: two digits and a colon. -/
def startsTime (cs : List Char) : Bool :=
  (readPair? 0 23 cs).isSome && (cs.drop 2).head? == some ':'

/-- A date, a time, or both with an offset, as text, and what follows. -/
def readMoment? (cs : List Char) : Option (List Char × List Char) := do
  if startsDate cs then
    let (date, rest) ← readDate? cs
    match rest with
    | c :: more =>
      if (c = 'T' ∨ c = 't' ∨ c = ' ') ∧ startsTime more then
        let (time, rest) ← readTime? more
        let (offset, rest) ← readOffset? rest
        some (date ++ 'T' :: time ++ offset, rest)
      else some (date, rest)
    | [] => some (date, [])
  else readTime? cs

/-- The moment that a whole text is. -/
def readStamp? (cs : List Char) : Option String := do
  let (text, rest) ← readMoment? cs
  if rest = [] then some (String.ofList text) else none

/-! ## Scalars -/

/-- A value that holds no others, and what follows. -/
def readScalar? (cs : List Char) : Option (Scalar × List Char) :=
  match cs with
  | 't' :: 'r' :: 'u' :: 'e' :: rest => some (.plain (.bool true), rest)
  | 'f' :: 'a' :: 'l' :: 's' :: 'e' :: rest => some (.plain (.bool false), rest)
  | c :: _ =>
    if c = '"' ∨ c = '\'' then (readText? cs).map fun r => (.plain (.text r.1), r.2)
    else if startsDate cs ∨ startsTime cs then
      (readMoment? cs).map fun r => (.moment (String.ofList r.1), r.2)
    else (readNumber? cs).map fun r => (.plain r.1, r.2)
  | [] => none

end ValueTypes.Toml
