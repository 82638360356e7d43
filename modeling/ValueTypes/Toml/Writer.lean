/-
  Documents written as TOML.

  What is written is a tree: truth values, texts, tables, and lists of tables.  A table has a block
  of lines: its header, and a pair for each of its values that stands on one line.  The tables in it
  have blocks of their own after that, in the order of their keys in the tree, and so has each item
  of a list of tables.  An empty list has no items to give it a block, so it stands on the line of
  its key.  A table that holds nothing but tables needs no header.  Between two blocks there is an
  empty line.
-/
import ValueTypes.Toml.Node

namespace ValueTypes.Toml

/-- What is written. -/
inductive Tree where
  | flag (b : Bool)
  | text (s : String)
  | table (entries : List (String × Tree))
  /-- A list of tables. -/
  | tables (items : List (List (String × Tree)))

/-- A value on the line of its key. -/
inductive Leaf where
  | flag (b : Bool)
  | text (s : String)
  | emptyList

/-- A line of a document. -/
inductive Line where
  | table (key : Key)
  | item (key : Key)
  | pair (key : String) (value : Leaf)

/-! ## Texts of lines -/

/-- Whether a key can be written as it is, in one part. -/
def isBareKey (key : String) : Bool := key != "" && key.toList.all inBareKey

/-- A part of a key: as it is where that reads as one, and in quotes otherwise. -/
def writePart (part : String) : List Char :=
  if isBareKey part then part.toList else writeQuoted part.toList

/-- The parts of a key with dots between them. -/
def writeKey (key : Key) : List Char :=
  key.front.flatMap (fun part => writePart part ++ ['.']) ++ writePart key.last

def Leaf.write : Leaf → List Char
  | flag b => (if b then "true" else "false").toList
  | text s => writeText s
  | emptyList => ['[', ']']

def Line.write : Line → List Char
  | table key => '[' :: writeKey key ++ [']', '\n']
  | item key => '[' :: '[' :: writeKey key ++ [']', ']', '\n']
  | pair key value => writePart key ++ ' ' :: '=' :: ' ' :: value.write ++ ['\n']

/-! ## Blocks of lines -/

/-- The value as one that stands on the line of its key, if it does. -/
def Tree.leaf? : Tree → Option Leaf
  | flag b => some (.flag b)
  | text s => some (.text s)
  | tables [] => some .emptyList
  | _ => none

/-- The values of a table that stand on the lines of their keys. -/
def leaves (es : List (String × Tree)) : List (String × Leaf) :=
  es.filterMap fun e => e.2.leaf?.map fun v => (e.1, v)

/-- The pairs of a table. -/
def leafLines (es : List (String × Tree)) : List Line := (leaves es).map fun e => .pair e.1 e.2

/-- Whether the header of a table is left out: there are tables in it, and nothing else. -/
def isHidden (es : List (String × Tree)) : Bool := !es.isEmpty && (leaves es).isEmpty

mutual

/-- The blocks of the value under a key of the table at a path, if it has any. -/
def blocksOf (path : List String) (key : String) : Tree → List (List Line)
  | .table es =>
    (if isHidden es then [] else [.table ⟨path, key⟩ :: leafLines es]) ++
      entryBlocks (path ++ [key]) es
  | .tables items => itemBlocks path key items
  | _ => []

/-- The blocks of the values in the table at a path. -/
def entryBlocks (path : List String) : List (String × Tree) → List (List Line)
  | [] => []
  | (key, v) :: es => blocksOf path key v ++ entryBlocks path es

/-- The blocks of the items of a list of tables. -/
def itemBlocks (path : List String) (key : String) : List (List (String × Tree)) → List (List Line)
  | [] => []
  | es :: items =>
    (.item ⟨path, key⟩ :: leafLines es) :: entryBlocks (path ++ [key]) es ++
      itemBlocks path key items

end

/-- The blocks of a table are those of its values, one after another. -/
theorem entryBlocks_eq_flatMap (path : List String) (es : List (String × Tree)) :
    entryBlocks path es = es.flatMap fun e => blocksOf path e.1 e.2 := by
  induction es with
  | nil => rfl
  | cons e es ih => rw [entryBlocks, ih, List.flatMap_cons]

/-- The blocks of a list are those of its items, each with a header of its own. -/
theorem itemBlocks_eq_flatMap (path : List String) (key : String)
    (items : List (List (String × Tree))) :
    itemBlocks path key items =
      items.flatMap fun es =>
        (.item ⟨path, key⟩ :: leafLines es) :: entryBlocks (path ++ [key]) es := by
  induction items with
  | nil => rfl
  | cons es items ih => rw [itemBlocks, ih, List.flatMap_cons]

/-- The blocks of a document. -/
def blocks (es : List (String × Tree)) : List (List Line) :=
  (if (leaves es).isEmpty then [] else [leafLines es]) ++ entryBlocks [] es

/-- The text of a document. -/
def write (es : List (String × Tree)) : String :=
  String.ofList (['\n'].intercalate ((blocks es).map fun lines => lines.flatMap Line.write))

end ValueTypes.Toml
