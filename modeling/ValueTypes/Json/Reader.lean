/-
  Values read from JSON text.

  The reader is strict: no leading zeros, no controls in texts, no lone surrogates, no commas at
  the end, nothing after the value, and at most 127 lists and objects inside one another.  Of a
  repeated key the last value counts.
-/
import ValueTypes.Json.Number

namespace ValueTypes.Json

def isSpace (c : Char) : Bool := c == ' ' || c == '\t' || c == '\n' || c == '\r'

def skipSpace (cs : List Char) : List Char := cs.dropWhile isSpace

/-- How many lists and objects may stand inside one another. -/
def maxNesting : Nat := 127

/-! ## Texts -/

def hexValue? (c : Char) : Option Nat :=
  if c.isDigit then some (c.toNat - 48)
  else if 'a' ≤ c ∧ c ≤ 'f' then some (c.toNat - 87)
  else if 'A' ≤ c ∧ c ≤ 'F' then some (c.toNat - 55)
  else none

/-- The number written by hexadecimal digits. -/
def readHex? (cs : List Char) : Option Nat :=
  cs.foldlM (fun n c => (hexValue? c).map (16 * n + ·)) 0

/-- The character of an escape of one letter. -/
def escapeOf? (c : Char) : Option Char :=
  if c = '"' ∨ c = '\\' ∨ c = '/' then some c
  else if c = 'b' then some '\x08'
  else if c = 'f' then some '\x0c'
  else if c = 'n' then some '\n'
  else if c = 'r' then some '\r'
  else if c = 't' then some '\t'
  else none

/-- What a code unit adds to the text, given the first half of a surrogate pair that waits for its
    second half: a character, or a first half that waits in its turn. -/
def joinUnit? (waiting : Option Nat) (n : Nat) : Option (List Char × Option Nat) :=
  match waiting with
  | none =>
    if 0xD800 ≤ n ∧ n ≤ 0xDBFF then some ([], some n)
    else if 0xDC00 ≤ n ∧ n ≤ 0xDFFF then none
    else some ([Char.ofNat n], none)
  | some high =>
    if 0xDC00 ≤ n ∧ n ≤ 0xDFFF then
      some ([Char.ofNat (0x10000 + (high - 0xD800) * 0x400 + (n - 0xDC00))], none)
    else none

/-- The text up to the closing quote, and what follows it; `acc` holds what was read before, the
    last character first. -/
def readChars? (waiting : Option Nat) (acc : List Char) : List Char → Option (String × List Char)
  | [] => none
  | '\\' :: 'u' :: a :: b :: c :: d :: rest =>
    match (readHex? [a, b, c, d]).bind (joinUnit? waiting) with
    | some (new, waiting) => readChars? waiting (new ++ acc) rest
    | none => none
  | '\\' :: c :: rest =>
    match waiting, escapeOf? c with
    | none, some x => readChars? none (x :: acc) rest
    | _, _ => none
  | c :: rest =>
    if waiting.isSome ∨ c.toNat < 0x20 ∨ c = '\\' then none
    else if c = '"' then some (String.ofList acc.reverse, rest)
    else readChars? none (c :: acc) rest

/-! ## Values -/

/-- A fixed word and its value. -/
def readWord? (cs : List Char) : Option (Value × List Char) :=
  match cs with
  | 'n' :: 'u' :: 'l' :: 'l' :: rest => some (.null, rest)
  | 't' :: 'r' :: 'u' :: 'e' :: rest => some (.bool true, rest)
  | 'f' :: 'a' :: 'l' :: 's' :: 'e' :: rest => some (.bool false, rest)
  | _ => none

mutual

/-- The value at the start of the text, which has no blanks in front, and what follows it.
    `fuel` bounds the steps and `room` the lists and objects that may still be opened. -/
def readValue? : Nat → Nat → List Char → Option (Value × List Char)
  | 0, _, _ => none
  | fuel + 1, room, cs =>
    match cs with
    | [] => none
    | '"' :: rest => (readChars? none [] rest).map fun (s, rest) => (.str s, rest)
    | '[' :: rest =>
      match room, skipSpace rest with
      | 0, _ => none
      | _ + 1, ']' :: rest => some (.arr [], rest)
      | room + 1, rest => readItems? fuel room [] rest
    | '{' :: rest =>
      match room, skipSpace rest with
      | 0, _ => none
      | _ + 1, '}' :: rest => some (.obj [], rest)
      | room + 1, rest => readFields? fuel room [] rest
    | c :: _ => if c = '-' ∨ c.isDigit then readNumber? cs else readWord? cs

/-- The items of a list from the next one on; `acc` holds those read before, the last first. -/
def readItems? : Nat → Nat → List Value → List Char → Option (Value × List Char)
  | 0, _, _, _ => none
  | fuel + 1, room, acc, cs =>
    match readValue? fuel room cs with
    | none => none
    | some (v, rest) =>
      match skipSpace rest with
      | ',' :: rest => readItems? fuel room (v :: acc) (skipSpace rest)
      | ']' :: rest => some (.arr (v :: acc).reverse, rest)
      | _ => none

/-- The fields of an object from the next one on. -/
def readFields? : Nat → Nat → Entries Value → List Char → Option (Value × List Char)
  | 0, _, _, _ => none
  | fuel + 1, room, acc, cs =>
    match cs with
    | '"' :: rest =>
      match readChars? none [] rest with
      | none => none
      | some (k, rest) =>
        match skipSpace rest with
        | ':' :: rest =>
          match readValue? fuel room (skipSpace rest) with
          | none => none
          | some (v, rest) =>
            match skipSpace rest with
            | ',' :: rest => readFields? fuel room (acc.insert k v) (skipSpace rest)
            | '}' :: rest => some (.obj (acc.insert k v), rest)
            | _ => none
        | _ => none
    | _ => none

end

/-- The value that the text holds, with nothing but blanks around it. -/
def read? (s : String) : Option Value :=
  let cs := skipSpace s.toList
  match readValue? (2 * cs.length + 1) maxNesting cs with
  | some (v, rest) => if skipSpace rest = [] then some v else none
  | none => none

end ValueTypes.Json
