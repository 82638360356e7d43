/-
  Type specs: the texts that name types.

  A spec is a registry key, or `outer<inner>` where `outer` is a key and `inner` a spec again.  A
  key is a nonempty text without angle brackets, and at most 256 levels stand inside one another.

  `TypeSpec.split` takes a text apart level by level, from the outside in, and keeps the text of
  every level; `TypeSpec.parse` builds the tree from it.  The first `<` opens a level and the last
  character must close it, so a level is read in one way only and each text has at most one tree.
-/
import ValueTypes.TypeError

namespace ValueTypes

/-- A parsed spec. -/
inductive TypeSpec where
  /-- A registry key. -/
  | simple (key : String)
  /-- A container with the spec of its members. -/
  | parametric (container : String) (member : TypeSpec)
  deriving DecidableEq

namespace TypeSpec

/-- How many levels a spec may have around its innermost key. -/
def maxDepth : Nat := 256

/-- The text of a spec. -/
def render : TypeSpec → String
  | simple key => key
  | parametric container member => container ++ "<" ++ member.render ++ ">"

/-- The number of levels around the innermost key. -/
def depth : TypeSpec → Nat
  | simple _ => 0
  | parametric _ member => member.depth + 1

/-- Whether `name` is one of the keys of the spec. -/
def mentions (name : String) : TypeSpec → Bool
  | simple key => key == name
  | parametric container member => container == name || member.mentions name

/-- The outermost key. -/
def head : TypeSpec → String
  | simple key => key
  | parametric container _ => container

/-! ## Taking a text apart -/

/-- Why a text is no spec. -/
inductive Fault where
  | tooDeep
  | noContainer
  | closedContainer
  | notClosed
  | noMember
  | strayClose
  | empty
  deriving DecidableEq

def Fault.reason : Fault → String
  | tooDeep => "nesting deeper than 256 levels"
  | noContainer => "missing container name before '<'"
  | closedContainer => "unexpected '>' in container name"
  | notClosed => "'<' is not closed by the final '>'"
  | noMember => "empty member spec"
  | strayClose => "unexpected '>' without matching '<'"
  | empty => "empty type name"

/-- One level of a spec: the key of its container and its whole text, brackets included. -/
structure Level where
  container : String
  text : String
  deriving DecidableEq

/-- The levels of a spec, outermost first, and its innermost key. -/
structure Parts where
  levels : List Level
  leaf : String
  deriving DecidableEq

/-- The innermost key, when no level is left. -/
def leaf? (cs : List Char) : Except Fault String :=
  if '>' ∈ cs then .error .strayClose
  else if cs = [] then .error .empty
  else .ok (String.ofList cs)

/-- The container and the member text of a level that starts at the first `<`. -/
def peel (cs : List Char) : Except Fault (String × List Char) :=
  let container := cs.takeWhile (· ≠ '<')
  let member := (cs.drop (container.length + 1)).dropLast
  if container = [] then .error .noContainer
  else if '>' ∈ container then .error .closedContainer
  else if cs.getLast? ≠ some '>' then .error .notClosed
  else if member = [] then .error .noMember
  else .ok (String.ofList container, member)

/-- The parts of a text in which `room` more levels may stand. -/
def splitWithin (room : Nat) (cs : List Char) : Except Fault Parts :=
  if '<' ∈ cs then
    match room with
    | 0 => .error .tooDeep
    | room + 1 =>
      match peel cs with
      | .error e => .error e
      | .ok (container, member) =>
        match splitWithin room member with
        | .error e => .error e
        | .ok parts => .ok ⟨⟨container, String.ofList cs⟩ :: parts.levels, parts.leaf⟩
  else (leaf? cs).map fun key => ⟨[], key⟩

/-- The parts of a spec. -/
def split (s : String) : Except TypeError Parts :=
  (splitWithin maxDepth s.toList).mapError fun e => .malformedSpec s e.reason

/-- The tree of a spec taken apart. -/
def Parts.tree (p : Parts) : TypeSpec :=
  p.levels.foldr (fun level member => parametric level.container member) (simple p.leaf)

/-- The spec that a text is. -/
def parse (s : String) : Except TypeError TypeSpec := (split s).map Parts.tree

end TypeSpec

end ValueTypes
