/-
  TOML documents.

  A document is a row of statements, one a line: a header of a table, a header of an item in a list
  of tables, or a pair of a key and a value.  `readStatements?` takes the text apart and knows
  nothing of the tree; `Statement.apply?` lets one statement after another act on the tree.
-/
import ValueTypes.Toml.Node

namespace ValueTypes.Toml

/-- A line that says something. -/
inductive Statement where
  | table (key : Key)
  | item (key : Key)
  | pair (key : Key) (value : Node)

/-- How deep lists and braces may stand inside one another, and how many parts a key may have. -/
def maxNesting : Nat := 79

def skipBlank (cs : List Char) : List Char := cs.dropWhile fun c => c == ' ' || c == '\t'

/-! ## Keys -/

/-- One part of a key, and what follows. -/
def readPart? (cs : List Char) : Option (String × List Char) :=
  match cs with
  | '"' :: rest => (readQuoted? 0 [] rest).map fun r => (String.ofList r.1, r.2)
  | '\'' :: rest => (readLiteral? [] rest).map fun r => (String.ofList r.1, r.2)
  | cs =>
    let name := cs.takeWhile inBareKey
    if name = [] then none else some (String.ofList name, cs.dropWhile inBareKey)

/-- A key, with blanks around its dots, of at most `room` parts, and what follows. -/
def readKey? : Nat → List Char → Option (Key × List Char)
  | 0, _ => none
  | room + 1, cs =>
    match readPart? (skipBlank cs) with
    | none => none
    | some (part, rest) =>
      match skipBlank rest with
      | '.' :: rest => (readKey? room rest).map fun r => (⟨part :: r.1.front, r.1.last⟩, r.2)
      | rest => some (⟨[], part⟩, rest)

/-! ## Lines -/

/-- What follows a newline, which must be here. -/
def newline? : List Char → Option (List Char)
  | '\n' :: rest => some rest
  | '\r' :: '\n' :: rest => some rest
  | _ => none

/-- What follows the end of a line: blanks, a comment, and a newline or the end of the text. -/
def lineEnd? (cs : List Char) : Option (List Char) :=
  let cs := match skipBlank cs with
    | '#' :: rest => rest.dropWhile isPlain
    | rest => rest
  if cs = [] then some [] else newline? cs

/-- What follows blanks, comments and newlines; `fuel` bounds the number of lines. -/
def skipLines? : Nat → List Char → Option (List Char)
  | 0, _ => none
  | fuel + 1, cs =>
    match skipBlank cs with
    | '#' :: rest => (newline? (rest.dropWhile isPlain)).bind (skipLines? fuel)
    | '\n' :: rest => skipLines? fuel rest
    | '\r' :: '\n' :: rest => skipLines? fuel rest
    | rest => some rest

/-! ## Values -/

mutual

/-- The value at the start of the text, and what follows it.  `fuel` bounds the steps and `room`
    the lists and braces that may still be opened. -/
def readValue? : Nat → Nat → List Char → Option (Node × List Char)
  | 0, _, _ => none
  | fuel + 1, room, cs =>
    match cs with
    | '[' :: rest =>
      match room with
      | 0 => none
      | room + 1 => readItems? fuel room [] rest
    | '\x7b' :: rest =>
      match room, skipBlank rest with
      | 0, _ => none
      | _ + 1, '\x7d' :: rest => some (.closed [], rest)
      | room + 1, rest => readPairs? fuel room [] rest
    | cs => (readScalar? cs).map fun r => (.scalar r.1, r.2)

/-- The items of a list up to its end; `acc` holds those read before, the last first. -/
def readItems? : Nat → Nat → List Node → List Char → Option (Node × List Char)
  | 0, _, _, _ => none
  | fuel + 1, room, acc, cs =>
    match skipLines? fuel cs with
    | none => none
    | some (']' :: rest) => some (.list acc.reverse, rest)
    | some cs =>
      match readValue? fuel room cs with
      | none => none
      | some (v, rest) =>
        match skipLines? fuel rest with
        | some (',' :: rest) => readItems? fuel room (v :: acc) rest
        | some (']' :: rest) => some (.list (v :: acc).reverse, rest)
        | _ => none

/-- The pairs between braces from the next one on. -/
def readPairs? : Nat → Nat → List (Key × Node) → List Char → Option (Node × List Char)
  | 0, _, _, _ => none
  | fuel + 1, room, acc, cs =>
    match readKey? maxNesting cs with
    | some (key, '=' :: rest) =>
      match readValue? fuel room (skipBlank rest) with
      | none => none
      | some (v, rest) =>
        match skipBlank rest with
        | ',' :: rest => readPairs? fuel room ((key, v) :: acc) rest
        | '\x7d' :: rest => (Node.ofPairs? ((key, v) :: acc).reverse).map (·, rest)
        | _ => none
    | _ => none

end

/-! ## Statements -/

/-- The statement at the start of a line, and what follows it on the line. -/
def readStatement? (cs : List Char) : Option (Statement × List Char) :=
  match cs with
  | '[' :: '[' :: rest =>
    match readKey? maxNesting rest with
    | some (key, ']' :: ']' :: rest) => some (.item key, rest)
    | _ => none
  | '[' :: rest =>
    match readKey? maxNesting rest with
    | some (key, ']' :: rest) => some (.table key, rest)
    | _ => none
  | cs =>
    match readKey? maxNesting cs with
    | some (key, '=' :: rest) =>
      let rest := skipBlank rest
      (readValue? (2 * rest.length + 1) maxNesting rest).map fun r => (.pair key r.1, r.2)
    | _ => none

/-- The statements of a text, of which there are fewer than `fuel`. -/
def readStatements? : Nat → List Char → Option (List Statement)
  | 0, _ => none
  | fuel + 1, cs =>
    match skipBlank cs with
    | [] => some []
    | '\n' :: rest => readStatements? fuel rest
    | '\r' :: '\n' :: rest => readStatements? fuel rest
    | '#' :: rest => (lineEnd? ('#' :: rest)).bind (readStatements? fuel)
    | rest =>
      match readStatement? rest with
      | none => none
      | some (s, rest) =>
        ((lineEnd? rest).bind (readStatements? fuel)).map (s :: ·)

/-! ## The tree -/

/-- The tree so far, and the path of the table that the next pairs go to. -/
structure Draft where
  root : List (String × Node)
  current : List String

/-- The draft after a statement. -/
def Statement.apply? (d : Draft) : Statement → Option Draft
  | table key =>
    (Node.enter? (Node.openTable? key.last) key.front d.root).map fun root =>
      ⟨root, key.front ++ [key.last]⟩
  | item key =>
    (Node.enter? (Node.openItem? key.last) key.front d.root).map fun root =>
      ⟨root, key.front ++ [key.last]⟩
  | pair key value =>
    (Node.enter? (Node.insertAt? value key.last key.front) d.current d.root).map fun root =>
      { d with root := root }

/-- The entries that a row of statements makes. -/
def entriesOf? (statements : List Statement) : Option (Entries Setting) :=
  match (statements.foldlM Statement.apply? ⟨[], []⟩).bind fun d => Node.tableSetting? d.root with
  | some (.table es) => some es
  | _ => none

/-- The text without a byte order mark at its start. -/
def dropMark : List Char → List Char
  | '\uFEFF' :: cs => cs
  | cs => cs

/-- The entries of a document. -/
def read? (s : String) : Option (Entries Setting) :=
  let cs := dropMark s.toList
  (readStatements? (cs.length + 1) cs).bind entriesOf?

end ValueTypes.Toml
