/-
  Texts in TOML: four written forms, and the choice among them.

  A text stands in quotes or in apostrophes, on one line or between triple delimiters.  Within
  quotes a backslash escapes; within apostrophes nothing does.  Between triple delimiters a newline
  right after the opening one is not part of the text, and up to two delimiter characters may
  stand alone.

  The writer takes the plainest form that needs no escapes, and falls back on escapes in quotes.
-/
import ValueTypes.Json.Reader

namespace ValueTypes.Toml

/-- Whether a character may stand in a text or a comment without escape: anything but a control, of
    which only the tab may. -/
def isPlain (c : Char) : Bool := c == '\t' || (decide (0x20 ≤ c.toNat) && c.toNat != 0x7F)

/-! ## Reading -/

/-- The character of an escape of one letter. -/
def escapeOf? (c : Char) : Option Char :=
  if c = '"' ∨ c = '\\' then some c
  else if c = 'b' then some '\x08'
  else if c = 't' then some '\t'
  else if c = 'n' then some '\n'
  else if c = 'f' then some '\x0c'
  else if c = 'r' then some '\r'
  else none

/-- The character of a code point in hexadecimal digits. -/
def codePoint? (ds : List Char) : Option Char :=
  (Json.readHex? ds).bind fun n => if n.isValidChar then some (Char.ofNat n) else none

/-- The character of the escape that follows a backslash, and what follows it. -/
def readEscape? : List Char → Option (Char × List Char)
  | 'u' :: a :: b :: c :: d :: rest => (codePoint? [a, b, c, d]).map (·, rest)
  | 'U' :: a :: b :: c :: d :: e :: f :: g :: h :: rest =>
    (codePoint? [a, b, c, d, e, f, g, h]).map (·, rest)
  | c :: rest => (escapeOf? c).map (·, rest)
  | [] => none

/-- How many characters the escape after a backslash has, if it starts with `c`. -/
def escapeLength (c : Char) : Nat := if c = 'u' then 5 else if c = 'U' then 9 else 1

/-- A text in quotes on one line, after the opening quote; `skip` characters were read already. -/
def readQuoted? (skip : Nat) (acc : List Char) : List Char → Option (List Char × List Char)
  | [] => none
  | c :: rest =>
    match skip with
    | skip + 1 => readQuoted? skip acc rest
    | 0 =>
      if c = '"' then some (acc.reverse, rest)
      else if c = '\\' then
        match readEscape? rest with
        | some (x, _) => readQuoted? (escapeLength (rest.headD 'b')) (x :: acc) rest
        | none => none
      else if isPlain c then readQuoted? 0 (c :: acc) rest
      else none

/-- A text in apostrophes on one line, after the opening one. -/
def readLiteral? (acc : List Char) : List Char → Option (List Char × List Char)
  | [] => none
  | c :: rest =>
    if c = '\'' then some (acc.reverse, rest)
    else if isPlain c then readLiteral? (c :: acc) rest
    else none

/-- The end of a text between triple delimiters of the character `q`, if it is here: three to five
    of them in a row, of which the last three close. -/
def closing? (q : Char) (acc : List Char) : List Char → Option (List Char × List Char)
  | a :: b :: c :: rest =>
    if a = q ∧ b = q ∧ c = q then
      match rest with
      | d :: e :: rest' =>
        if d = q ∧ e = q then some ((q :: q :: acc).reverse, rest')
        else if d = q then some ((q :: acc).reverse, e :: rest')
        else some (acc.reverse, rest)
      | [d] => if d = q then some ((q :: acc).reverse, []) else some (acc.reverse, rest)
      | [] => some (acc.reverse, [])
    else none
  | _ => none

/-- Where a reader is in a text between triple quotes: in the text, after a backslash that ends its
    line, or in the blanks at the start of the lines that follow it. -/
inductive FoldMode where
  | inText | beforeBreak | afterBreak
  deriving DecidableEq

/-- A text between triple quotes, after the opening ones and the newline that may follow them. -/
def readFolded? (mode : FoldMode) (skip : Nat) (acc : List Char) :
    List Char → Option (List Char × List Char)
  | [] => none
  | c :: rest =>
    match skip with
    | skip + 1 => readFolded? mode skip acc rest
    | 0 =>
      if c = '\n' ∨ (c = '\r' ∧ rest.head? = some '\n') then
        let skip := if c = '\r' then 1 else 0
        match mode with
        | .inText => readFolded? .inText skip ('\n' :: acc) rest
        | _ => readFolded? .afterBreak skip acc rest
      else if (c = ' ' ∨ c = '\t') ∧ mode ≠ .inText then readFolded? mode 0 acc rest
      else if mode = .beforeBreak then none
      else if c = '"' then
        match closing? '"' acc (c :: rest) with
        | some r => some r
        | none => readFolded? .inText 0 (c :: acc) rest
      else if c = '\\' then
        match rest.head? with
        | none => none
        | some d =>
          if d = ' ' ∨ d = '\t' ∨ d = '\n' ∨ d = '\r' then readFolded? .beforeBreak 0 acc rest
          else
            match readEscape? rest with
            | some (x, _) => readFolded? .inText (escapeLength d) (x :: acc) rest
            | none => none
      else if isPlain c then readFolded? .inText 0 (c :: acc) rest
      else none

/-- A text between triple apostrophes, after the opening ones and the newline that may follow. -/
def readRaw? (acc : List Char) : List Char → Option (List Char × List Char)
  | [] => none
  | c :: rest =>
    if c = '\n' then readRaw? ('\n' :: acc) rest
    else if c = '\r' then if rest.head? = some '\n' then readRaw? acc rest else none
    else if c = '\'' then
      match closing? '\'' acc (c :: rest) with
      | some r => some r
      | none => readRaw? (c :: acc) rest
    else if isPlain c then readRaw? (c :: acc) rest
    else none

/-- What follows a newline, if there is one here. -/
def dropNewline : List Char → List Char
  | '\n' :: rest => rest
  | '\r' :: '\n' :: rest => rest
  | cs => cs

/-- The text at the start, in any of the four forms, and what follows it. -/
def readText? : List Char → Option (String × List Char)
  | '"' :: '"' :: '"' :: rest => (readFolded? .inText 0 [] (dropNewline rest)).map asString
  | '"' :: rest => (readQuoted? 0 [] rest).map asString
  | '\'' :: '\'' :: '\'' :: rest => (readRaw? [] (dropNewline rest)).map asString
  | '\'' :: rest => (readLiteral? [] rest).map asString
  | _ => none
where
  asString (r : List Char × List Char) : String × List Char := (String.ofList r.1, r.2)

/-! ## Writing -/

/-- The length of the longest run of `q`, where `run` of them stand right before. -/
def longestRun (q : Char) (run : Nat) : List Char → Nat
  | [] => run
  | c :: cs => if c = q then longestRun q (run + 1) cs else max run (longestRun q 0 cs)

/-- Whether a character needs an escape in every form. -/
def isControl (c : Char) : Bool := !isPlain c && c != '\n'

/-- An uppercase hexadecimal digit. -/
def hexDigit (n : Nat) : Char := (Nat.digitChar n).toUpper

/-- How a text in quotes writes a character that needs an escape. -/
def writeEscape (c : Char) : List Char :=
  if c = '\x08' then ['\\', 'b']
  else if c = '\t' then ['\\', 't']
  else if c = '\x0c' then ['\\', 'f']
  else if c = '\r' then ['\\', 'r']
  else if c = '\n' then ['\\', 'n']
  else if c = '"' then ['\\', '"']
  else if c = '\\' then ['\\', '\\']
  else ['\\', 'u', '0', '0', hexDigit (c.toNat / 16), hexDigit (c.toNat % 16)]

/-- The characters of a text in quotes; between triple ones when `folded`.  `run` counts the quotes
    that were written bare right before. -/
def writeQuotedChars (folded : Bool) (run : Nat) : List Char → List Char
  | [] => []
  | c :: cs =>
    if c = '"' then
      if folded ∧ run < 2 then '"' :: writeQuotedChars folded (run + 1) cs
      else writeEscape c ++ writeQuotedChars folded 0 cs
    else if c = '\n' ∧ folded then '\n' :: writeQuotedChars folded 0 cs
    else if c = '\t' ∨ c = '\\' ∨ !isPlain c then writeEscape c ++ writeQuotedChars folded 0 cs
    else c :: writeQuotedChars folded 0 cs

/-- The newline that follows an opening triple delimiter when the text has one. -/
def leadingNewline (cs : List Char) : List Char := if '\n' ∈ cs then ['\n'] else []

/-- A text in quotes, on one line. -/
def writeQuoted (cs : List Char) : List Char := '"' :: writeQuotedChars false 0 cs ++ ['"']

/-- A text between triple quotes. -/
def writeFolded (cs : List Char) : List Char :=
  ['"', '"', '"'] ++ leadingNewline cs ++ writeQuotedChars true 0 cs ++ ['"', '"', '"']

/-- A text in apostrophes, on one line. -/
def writeLiteral (cs : List Char) : List Char := '\'' :: cs ++ ['\'']

/-- A text between triple apostrophes. -/
def writeRaw (cs : List Char) : List Char :=
  ['\'', '\'', '\''] ++ leadingNewline cs ++ cs ++ ['\'', '\'', '\'']

/-- A text in the plainest form that holds it. -/
def writeText (s : String) : List Char :=
  let cs := s.toList
  let control := cs.any isControl
  let newline := decide ('\n' ∈ cs)
  let backslash := decide ('\\' ∈ cs)
  let quotes := longestRun '"' 0 cs
  let apostrophes := longestRun '\'' 0 cs
  if !control ∧ !backslash ∧ !newline ∧ quotes = 0 then writeQuoted cs
  else if !control ∧ !newline ∧ apostrophes = 0 then writeLiteral cs
  else if !control ∧ !backslash ∧ quotes ≤ 2 then writeFolded cs
  else if !control ∧ apostrophes ≤ 2 then writeRaw cs
  else if newline then writeFolded cs
  else writeQuoted cs

end ValueTypes.Toml
