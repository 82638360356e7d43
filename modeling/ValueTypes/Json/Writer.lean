/-
  Values written as JSON, compact or on indented lines.

  Keys come in the order of the object.  Texts escape the quote, the backslash and the controls;
  every other character stands as it is.
-/
import ValueTypes.Value
import ValueTypes.Number.Shortest

namespace ValueTypes.Json

/-- How a text writes one character. -/
def escaped (c : Char) : List Char :=
  if c = '"' then ['\\', '"']
  else if c = '\\' then ['\\', '\\']
  else if c = '\x08' then ['\\', 'b']
  else if c = '\x0c' then ['\\', 'f']
  else if c = '\n' then ['\\', 'n']
  else if c = '\r' then ['\\', 'r']
  else if c = '\t' then ['\\', 't']
  else if c.toNat < 0x20 then
    ['\\', 'u', '0', '0', Nat.digitChar (c.toNat / 16), Nat.digitChar (c.toNat % 16)]
  else [c]

def writeString (s : String) : List Char := '"' :: s.toList.flatMap escaped ++ ['"']

def writeInt (n : Int) : List Char :=
  if n < 0 then '-' :: Text.digits n.natAbs else Text.digits n.natAbs

/-- Values that hold no others are written alike in both forms. -/
def writeAtom : Value → List Char
  | .null => ['n', 'u', 'l', 'l']
  | .bool true => ['t', 'r', 'u', 'e']
  | .bool false => ['f', 'a', 'l', 's', 'e']
  | .int n => writeInt n
  | .float x => Layout.json.write x
  | .str s => writeString s
  | .arr _ => []
  | .obj _ => []

mutual

/-- The value on one line without blanks. -/
def writeCompact : Value → List Char
  | .arr [] => ['[', ']']
  | .arr (v :: vs) => '[' :: writeCompact v ++ writeCompactItems vs
  | .obj [] => ['{', '}']
  | .obj ((k, v) :: fs) => '{' :: writeString k ++ ':' :: writeCompact v ++ writeCompactFields fs
  | v => writeAtom v

/-- The items after the first, and the closing bracket. -/
def writeCompactItems : List Value → List Char
  | [] => [']']
  | v :: vs => ',' :: writeCompact v ++ writeCompactItems vs

/-- The fields after the first, and the closing brace. -/
def writeCompactFields : List (String × Value) → List Char
  | [] => ['}']
  | (k, v) :: fs => ',' :: writeString k ++ ':' :: writeCompact v ++ writeCompactFields fs

end

/-- A new line, indented by two blanks for each of `depth` levels. -/
def newLine (depth : Nat) : List Char := '\n' :: List.replicate (2 * depth) ' '

mutual

/-- The value with every item and field on a line of its own, inside `depth` levels. -/
def writePretty (depth : Nat) : Value → List Char
  | .arr [] => ['[', ']']
  | .arr (v :: vs) =>
    '[' :: newLine (depth + 1) ++ writePretty (depth + 1) v ++ writePrettyItems depth vs
  | .obj [] => ['{', '}']
  | .obj ((k, v) :: fs) =>
    '{' :: newLine (depth + 1) ++ writeString k ++ ':' :: ' ' :: writePretty (depth + 1) v ++
      writePrettyFields depth fs
  | v => writeAtom v

def writePrettyItems (depth : Nat) : List Value → List Char
  | [] => newLine depth ++ [']']
  | v :: vs =>
    ',' :: newLine (depth + 1) ++ writePretty (depth + 1) v ++ writePrettyItems depth vs

def writePrettyFields (depth : Nat) : List (String × Value) → List Char
  | [] => newLine depth ++ ['}']
  | (k, v) :: fs =>
    ',' :: newLine (depth + 1) ++ writeString k ++ ':' :: ' ' :: writePretty (depth + 1) v ++
      writePrettyFields depth fs

end

/-- The compact text of a value. -/
def compact (v : Value) : String := String.ofList (writeCompact v)

/-- The text of a value on indented lines. -/
def pretty (v : Value) : String := String.ofList (writePretty 0 v)

end ValueTypes.Json
