/-
  Settings: the tree of values that configuration is read from, whatever its source.

  Sources are laid over one another.  Tables merge key by key, with their keys in lower case; every
  other value replaces what was there, lists included, and what lies inside a list is kept as it
  is.  The keys of a source at its top may be paths, such as `output.format`; they are put in lower
  case first and taken for paths then.
-/
import ValueTypes.Dict
import ValueTypes.Number.Numeral
import ValueTypes.Text.Lowercase

namespace ValueTypes

/-- A value of some source of configuration. -/
inductive Setting where
  | missing
  | bool (b : Bool)
  | int (n : Int)
  | float (x : Numeral.Reading)
  | text (s : String)
  | list (items : List Setting)
  | table (entries : List (String × Setting))

namespace Setting

/-- The entries of a table; anything else counts as an empty one. -/
def entriesOf : Setting → Entries Setting
  | table es => es
  | _ => []

mutual

/-- The setting after `value` was laid over it: a table is merged into it, anything else replaces
    it.  An empty table leaves what was there. -/
def overlay (old : Option Setting) : Setting → Setting
  | table es => overlayAll (old.getD (table [])) es
  | v => v

/-- The setting after entries were laid over it, one after another. -/
def overlayAll (old : Setting) : List (String × Setting) → Setting
  | [] => old
  | (k, v) :: es =>
    let key := Text.lowercase k
    overlayAll (table (old.entriesOf.insert key (overlay (old.entriesOf.get? key) v))) es

end

/-- The setting after `value` was laid over its entry `key`. -/
def assign (key : String) (value : Setting) (root : Setting) : Setting :=
  overlayAll root [(key, value)]

/-! ## Paths -/

/-- A step from a setting to one inside it. -/
inductive PathStep where
  | entry (key : String)
  | item (index : Int)
  deriving DecidableEq

/-- Whether a character may stand in a name of a path. -/
def inPathName (c : Char) : Bool := c.isAlphanum || c == '_' || c == '-' || c == ' '

/-- Whether a character may stand around an index. -/
def isPathBlank (c : Char) : Bool := c == ' ' || c == '\t'

/-- The steps that follow the first name of a path.  `fuel` bounds their number. -/
def readSteps? : Nat → List Char → Option (List PathStep)
  | _, [] => some []
  | 0, _ => none
  | fuel + 1, '.' :: cs =>
    let name := cs.takeWhile inPathName
    if name = [] then none
    else (readSteps? fuel (cs.dropWhile inPathName)).map (.entry (String.ofList name) :: ·)
  | fuel + 1, '[' :: cs =>
    let cs := cs.dropWhile isPathBlank
    let dash := cs.takeWhile (· == '-')
    let (ds, cs) := Numeral.splitDigits (cs.drop dash.length)
    match Numeral.readSigned? (dash ++ ds), cs.dropWhile isPathBlank with
    | some n, ']' :: cs => (readSteps? fuel cs).map (.item n :: ·)
    | _, _ => none
  | _, _ => none

/-- The path that a key is; a key that is no path is a single name. -/
def readPath (key : String) : String × List PathStep :=
  let cs := key.toList
  let name := cs.takeWhile inPathName
  if name = [] then (key, [])
  else
    match readSteps? cs.length (cs.dropWhile inPathName) with
    | some steps => (String.ofList name, steps)
    | none => (key, [])

/-- The items of a list; anything else counts as an empty one. -/
def itemsOf : Setting → List Setting
  | list xs => xs
  | _ => []

/-- The place of an index that may count from the end. -/
def place (index : Int) (size : Nat) : Nat :=
  if 0 ≤ index then index.toNat else size - index.natAbs

/-- The list with `x` at the place `i`, made longer where it is too short. -/
def setItem (xs : List Setting) (i : Nat) (x : Setting) : List Setting :=
  (xs ++ List.replicate (i + 1 - xs.length) missing).set i x

/-- The setting after `value` was laid over the place at the end of a path.  What stands in the
    way of the path is replaced. -/
def put (value : Setting) : List PathStep → Setting → Setting
  | [], _ => value
  | [.entry key], root => assign key value root
  | .entry key :: steps, root =>
    let inner := (root.entriesOf.get? key).getD missing
    table (root.entriesOf.insert key (put value steps inner))
  | .item index :: steps, root =>
    let xs := root.itemsOf
    let i := place index xs.length
    list (setItem xs i (put value steps (xs.getD i missing)))

/-- The settings after the entry of a source was laid over them. -/
def layEntry (root : Setting) (entry : String × Setting) : Setting :=
  let (name, steps) := readPath (Text.lowercase entry.1)
  put entry.2 (.entry name :: steps) root

/-- The settings after a whole source was laid over them. -/
def lay (root : Setting) (source : Entries Setting) : Setting := source.foldl layEntry root

end Setting

end ValueTypes
