/-
  Configuration: which built-in types a context has, how output is laid out, and the records that
  are declared from the start.
-/
import ValueTypes.Context

namespace ValueTypes

/-- How a value is printed. -/
inductive OutputFormat where
  | pretty | compact
  deriving DecidableEq

/-- A declared field: its name and the spec of its type. -/
structure FieldDeclaration where
  name : String
  spec : String
  deriving DecidableEq

/-- A declared record. -/
structure Declaration where
  name : String
  fields : List FieldDeclaration
  deriving DecidableEq

/-- Which built-in types are registered. -/
structure RegistrySettings where
  builtins : Bool
  optionalNamespace : Bool
  coercibleNamespace : Bool
  deriving DecidableEq

structure Config where
  registry : RegistrySettings
  format : OutputFormat
  /-- The records, declared in this order. -/
  declarations : List Declaration
  deriving DecidableEq

namespace OutputFormat

def name : OutputFormat → String
  | pretty => "pretty"
  | compact => "compact"

/-- The names of the formats, in their order. -/
def names : List String := ["pretty", "compact"]

def ofName? (s : String) : Option OutputFormat :=
  if s = "pretty" then some pretty else if s = "compact" then some compact else none

/-- The text of a value. -/
def render : OutputFormat → Value → String
  | pretty, v => Json.pretty v
  | compact, v => Json.compact v

end OutputFormat

def RegistrySettings.default : RegistrySettings := ⟨true, true, true⟩

namespace Config

/-- What holds where nothing is said. -/
def default : Config := ⟨.default, .pretty, []⟩

/-! ## As a value -/

def fieldValue (f : FieldDeclaration) : Value :=
  .obj [("name", .str f.name), ("type", .str f.spec)]

def declarationValue (d : Declaration) : Value :=
  .obj [("fields", .arr (d.fields.map fieldValue)), ("name", .str d.name)]

/-- The configuration as a value. -/
def value (c : Config) : Value :=
  .obj [
    ("output", .obj [("format", .str c.format.name)]),
    ("registry", .obj [
      ("builtins", .bool c.registry.builtins),
      ("coercible_namespace", .bool c.registry.coercibleNamespace),
      ("optional_namespace", .bool c.registry.optionalNamespace)]),
    ("structs", .arr (c.declarations.map declarationValue))]

/-! ## As a context -/

variable {σ : Type}

/-- The context with the declared records, up to the first that fails. -/
def declareAll (ctx : Context σ) : List Declaration → Except TypeError (Context σ)
  | [] => .ok ctx
  | d :: ds =>
    match ctx.defineRecord d.name (d.fields.map fun f => (f.name, .spec f.spec)) with
    | (.error e, _) => .error e
    | (.ok _, ctx) => declareAll ctx ds

/-- The context before any record is declared. -/
def baseContext (c : Config) : Context σ :=
  if c.registry.builtins then
    Context.empty.installBuiltins ⟨c.registry.optionalNamespace, c.registry.coercibleNamespace⟩
  else .empty

/-- The context that the configuration describes. -/
def context (c : Config) : Except TypeError (Context σ) := declareAll c.baseContext c.declarations

end Config

end ValueTypes
