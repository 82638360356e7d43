/-
  The backend in use: documents are TOML files.

  A document is looked for under its name.  A name without a file of exactly that name is tried with
  `.toml` at its end, whatever slashes and single dots it ends in.  Settings are read leniently.
-/
import ValueTypes.Config.Backend
import ValueTypes.Config.Sources
import ValueTypes.Toml.Document

namespace ValueTypes.Config

/-- Whether a name ends in `.toml` with something before it. -/
def isTomlName (name : String) : Bool :=
  let last := (name.toList.reverse.takeWhile (· != '/')).reverse
  ".toml".toList.isSuffixOf last && decide (5 < last.length)

/-- The path without the slashes and single dots at its end, if it then ends in a name. -/
def bareName? (path : String) : Option String :=
  match (path.splitOn "/").reverse.dropWhile fun name => name = "" ∨ name = "." with
  | [] => none
  | ".." :: _ => none
  | names => some (String.intercalate "/" names.reverse)

/-- Looks for the document of a name, exactly or with `.toml` at its end. -/
def find (name : String) : Plan Found := do
  match ← Plan.file name with
  | .ok text => return if isTomlName name then .document text else .unknownForm
  | .error _ =>
    match bareName? name with
    | none => return .nothing
    | some bare =>
      match ← Plan.file (bare ++ ".toml") with
      | .ok text => return .document text
      | .error _ => return .nothing

/-- Files in TOML, where every document has a text. -/
def Backend.toml : Backend where
  write es := .ok (Toml.write es)
  find := Config.find
  read? := Toml.read?
  environment := Config.environment
  merge := layAll
  decoder := .lenient

/-- The configuration of all sources, or none if one of them is at fault. -/
def load (around : Surroundings) (path : Option String) : Plan (Option Config) :=
  Backend.toml.load around path

end ValueTypes.Config
