/-
  What the environment gives, and how sources are laid over one another.

  The variables whose names start with `types__`, in any case, belong to the configuration; what
  follows is a path, whose names a double underscore parts.  A variable is a truth value, an integer
  or a number if it reads as one, and a text otherwise.
-/
import ValueTypes.Setting

namespace ValueTypes.Config

/-! ## The environment -/

/-- The start of the names of variables that belong to the configuration. -/
def variablePrefix : String := "types__"

/-- The text with every double underscore, taken from the left, made a dot. -/
def dotted : List Char → List Char
  | '_' :: '_' :: cs => '.' :: dotted cs
  | c :: cs => c :: dotted cs
  | [] => []

/-- The key of a variable, if it belongs to the configuration. -/
def variableKey? (name : String) : Option String :=
  let cs := (Text.lowercase name).toList
  let start := variablePrefix.toList
  if start.isPrefixOf cs then some (String.ofList (dotted (cs.drop start.length))) else none

/-- The setting that the text of a variable is. -/
def variableSetting (s : String) : Setting :=
  let word := Text.lowercase s
  if word = "true" then .bool true
  else if word = "false" then .bool false
  else
    match Numeral.readSigned? s.toList with
    | some n => .int n
    | none =>
      match Numeral.read? s.toList with
      | some x => .float x
      | none => .text s

/-- The entries that the environment gives. -/
def environment (env : List (String × String)) : Entries Setting :=
  Entries.ofList (env.filterMap fun v =>
    (variableKey? v.1).map fun key => (key, variableSetting v.2))

/-! ## All sources -/

/-- The settings of some sources, laid over an empty table one after another. -/
def layAll (sources : List (Entries Setting)) : Setting := sources.foldl Setting.lay (.table [])

end ValueTypes.Config
