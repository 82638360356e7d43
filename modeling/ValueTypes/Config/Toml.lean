/-
  Configuration as a document.

  Every field is written under its name, in the order of the fields, whether or not it is what holds
  where nothing is said.
-/
import ValueTypes.Config
import ValueTypes.Toml.Writer

namespace ValueTypes.Config

open Toml

def registryTree (r : RegistrySettings) : List (String × Tree) :=
  [("builtins", .flag r.builtins), ("optional_namespace", .flag r.optionalNamespace),
    ("coercible_namespace", .flag r.coercibleNamespace)]

def outputTree (f : OutputFormat) : List (String × Tree) := [("format", .text f.name)]

def fieldTree (f : FieldDeclaration) : List (String × Tree) :=
  [("name", .text f.name), ("type", .text f.spec)]

def declarationTree (d : Declaration) : List (String × Tree) :=
  [("name", .text d.name), ("fields", .tables (d.fields.map fieldTree))]

/-- The document of a configuration. -/
def tree (c : Config) : List (String × Tree) :=
  [("registry", .table (registryTree c.registry)), ("output", .table (outputTree c.format)),
    ("structs", .tables (c.declarations.map declarationTree))]

/-- The text of a configuration. -/
def toToml (c : Config) : String := Toml.write c.tree

end ValueTypes.Config
