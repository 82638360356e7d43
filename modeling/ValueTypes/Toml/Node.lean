/-
  The tree of a TOML document while it is read.

  Tables come into being in three ways: by a header of their own, as a parent that a header
  implies, or by a key with dots.  A table has one header at most; a header may take up a table
  that was only implied; keys with dots reach into tables that they or a header implied, but not
  into one that a header made.  A list of tables grows by one with each header of its own, and
  whatever names the list afterwards means the latest of its tables.

  A table keeps its entries in the order in which they were made.  The order matters to one rule
  only: a table whose first key is `$__toml_private_datetime` is a date in disguise, written as the
  text under that key, and whatever else the table holds counts for nothing.
-/
import ValueTypes.Toml.Scalar

namespace ValueTypes.Toml

/-- How a table came into being. -/
inductive Origin where
  | header | implied | dotted
  deriving DecidableEq

/-- A node of the tree. -/
inductive Node where
  | scalar (s : Scalar)
  | list (items : List Node)
  /-- A table between braces, to which nothing is added. -/
  | closed (entries : List (String × Node))
  | table (origin : Origin) (entries : List (String × Node))
  /-- A list of tables, the latest first. -/
  | tables (latest : List (String × Node)) (earlier : List (List (String × Node)))

/-- A key with dots: the parts before the last, and the last. -/
structure Key where
  front : List String
  last : String
  deriving DecidableEq

/-- Whether a character may stand in a key without quotes. -/
def inBareKey (c : Char) : Bool := c.isAlphanum || c == '_' || c == '-'

namespace Node

/-! ## Entries in the order of their making -/

/-- The entries with `n` under the key `k`, in its old place or at the end. -/
def put (k : String) (n : Node) : List (String × Node) → List (String × Node)
  | [] => [(k, n)]
  | e :: es => if k = e.1 then (k, n) :: es else e :: put k n es

/-- The entries with `n` under the key `k`, at the end. -/
def putLast (k : String) (n : Node) (es : List (String × Node)) : List (String × Node) :=
  es.filter (fun e => e.1 != k) ++ [(k, n)]

/-! ## Growing the tree -/

/-- Puts a value under a key of an open table; the table that directly takes it must have been made
    by this kind of key. -/
def insertAt? (v : Node) (last : String) :
    List String → List (String × Node) → Option (List (String × Node))
  | [], es =>
    match Entries.get? last es with
    | some _ => none
    | none => some (put last v es)
  | p :: ps, es =>
    match Entries.get? p es with
    | none => (insertAt? v last ps []).map fun inner => put p (.table .dotted inner) es
    | some (.table .dotted inner) =>
      (insertAt? v last ps inner).map fun inner => put p (.table .dotted inner) es
    | some (.table .implied inner) =>
      if ps = [] then none
      else (insertAt? v last ps inner).map fun inner => put p (.table .implied inner) es
    | some (.tables latest earlier) =>
      if ps = [] then none
      else (insertAt? v last ps latest).map fun latest => put p (.tables latest earlier) es
    | some _ => none

/-- Changes the table at the end of a path of headers, whose missing parts are implied. -/
def enter? (change : List (String × Node) → Option (List (String × Node))) :
    List String → List (String × Node) → Option (List (String × Node))
  | [], es => change es
  | p :: ps, es =>
    match Entries.get? p es with
    | none => (enter? change ps []).map fun inner => put p (.table .implied inner) es
    | some (.table origin inner) =>
      (enter? change ps inner).map fun inner => put p (.table origin inner) es
    | some (.tables latest earlier) =>
      (enter? change ps latest).map fun latest => put p (.tables latest earlier) es
    | some _ => none

/-- Gives a table its header, which makes it the last of its parent. -/
def openTable? (name : String) (es : List (String × Node)) : Option (List (String × Node)) :=
  match Entries.get? name es with
  | none => some (put name (.table .header []) es)
  | some (.table .implied inner) => some (putLast name (.table .header inner) es)
  | some _ => none

/-- Adds a table to a list of tables. -/
def openItem? (name : String) (es : List (String × Node)) : Option (List (String × Node)) :=
  match Entries.get? name es with
  | none => some (put name (.tables [] []) es)
  | some (.tables latest earlier) => some (put name (.tables [] (latest :: earlier)) es)
  | some _ => none

/-- The table of the pairs between braces. -/
def ofPairs? (pairs : List (Key × Node)) : Option Node :=
  (pairs.foldlM (fun es p => insertAt? p.2 p.1.last p.1.front es) []).map closed

/-! ## The finished tree -/

/-- The first key of a table that is a date in disguise. -/
def momentKey : String := "$__toml_private_datetime"

/-- The moment that a node tells as a text. -/
def stamp? : Node → Option String
  | .scalar (.plain (.text s)) => readStamp? s.toList
  | _ => none

mutual

/-- The setting that a finished node is, unless a date in disguise is none. -/
def setting? : Node → Option Setting
  | .scalar s => some s.setting
  | .list items => (itemSettings? items).map .list
  | .closed es => tableSetting? es
  | .table _ es => tableSetting? es
  | .tables latest earlier =>
    match tableSetting? latest, earlierSettings? earlier with
    | some v, some vs => some (.list (v :: vs).reverse)
    | _, _ => none

def itemSettings? : List Node → Option (List Setting)
  | [] => some []
  | n :: ns =>
    match setting? n, itemSettings? ns with
    | some v, some vs => some (v :: vs)
    | _, _ => none

/-- The setting that a finished table is. -/
def tableSetting? : List (String × Node) → Option Setting
  | [] => some (.table [])
  | (k, n) :: es =>
    if k = momentKey then n.stamp?.map .text
    else
      match setting? n, entrySettings? es with
      | some v, some vs => some (.table (Entries.ofList ((k, v) :: vs)))
      | _, _ => none

def entrySettings? : List (String × Node) → Option (List (String × Setting))
  | [] => some []
  | (k, n) :: es =>
    match setting? n, entrySettings? es with
    | some v, some vs => some ((k, v) :: vs)
    | _, _ => none

def earlierSettings? : List (List (String × Node)) → Option (List Setting)
  | [] => some []
  | es :: ess =>
    match tableSetting? es, earlierSettings? ess with
    | some v, some vs => some (v :: vs)
    | _, _ => none

end

end Node

end ValueTypes.Toml
