/-
  Where configuration is looked for, and what is done with it.

  Four places may hold a document: `types.toml`, `.types.toml` and `config/types.toml` in the
  working directory, and `types/types.toml` in the user's directory of configurations.  A document
  that is asked for by name comes after them and must be there, and the environment comes last.

  How a document is written, found and read, what the environment gives, how sources are laid over
  one another and how the settings that result are read is the matter of a `Backend`.
-/
import ValueTypes.Config.Decode
import ValueTypes.Config.Toml
import ValueTypes.Plan

namespace ValueTypes.Config

/-- What a program finds around it: its environment, and the directory of configurations. -/
structure Surroundings where
  env : List (String × String)
  configHome : Option String

/-- What looking for a document comes to. -/
inductive Found where
  | document (text : String)
  | nothing
  /-- A file of a form that is not known. -/
  | unknownForm
  deriving DecidableEq

/-- What configuration rests on. -/
structure Backend where
  /-- The text of a document, or why it has none. -/
  write : List (String × Toml.Tree) → Except String String
  /-- Looks for the document of a name. -/
  find : String → Plan Found
  /-- The entries of the text of a document. -/
  read? : String → Option (Entries Setting)
  /-- The entries that the environment gives. -/
  environment : List (String × String) → Entries Setting
  /-- The settings of some sources, later ones laid over earlier ones. -/
  merge : List (Entries Setting) → Setting
  decoder : Decoder

/-- The places in the working directory. -/
def defaultNames : List String := ["types.toml", ".types.toml", "config/types.toml"]

/-- The place in a directory of configurations. -/
def homeName (dir : String) : String := dir ++ "/types/types.toml"

namespace Backend

/-- The text of a configuration, or why it has none. -/
def written (b : Backend) (c : Config) : Except String String := b.write c.tree

/-- The documents of names that need not be there. -/
def findAll (b : Backend) : List String → Plan (List String)
  | [] => return []
  | name :: names => do
    let found ← b.find name
    let rest ← b.findAll names
    return match found with
      | .document text => text :: rest
      | _ => rest

/-- The document of the user's directory, if there is one.  It is looked for as others are, but
    only where something of its exact name is there. -/
def findHome (b : Backend) : Option String → Plan (List String)
  | none => return []
  | some dir => do
    match ← Plan.file (homeName dir) with
    | .ok _ => b.findAll [homeName dir]
    | .error .directory => b.findAll [homeName dir]
    | .error _ => return []

/-- The document that is asked for by name, or none if it is not there. -/
def findNamed (b : Backend) : Option String → Plan (Option (List String))
  | none => return some []
  | some name => do
    match ← b.find name with
    | .document text => return some [text]
    | _ => return none

/-- The configuration of some documents and an environment. -/
def ofSources? (b : Backend) (documents : List String) (env : List (String × String)) :
    Option Config := do
  let sources ← documents.mapM b.read?
  decode? b.decoder (b.merge (sources ++ [b.environment env]))

/-- The configuration of all sources, or none if one of them is at fault. -/
def load (b : Backend) (around : Surroundings) (path : Option String) : Plan (Option Config) := do
  let documents ← b.findAll defaultNames
  let home ← b.findHome around.configHome
  match ← b.findNamed path with
  | none => return none
  | some named => return b.ofSources? (documents ++ home ++ named) around.env

end Backend

end ValueTypes.Config
