/-
  The command line program: it checks a JSON value against a spec, shows how a spec is read, lists
  the registered types, and prints or saves the configuration.

  `Cli.run` is a plan that ends with a report: the exit code and what goes to the two outputs.  No
  steps of users take part, so the types here have none.
-/
import ValueTypes.Cli.Arguments
import ValueTypes.Config.Loading
import ValueTypes.Json.Reader
import ValueTypes.Similarity

namespace ValueTypes.Cli

/-- How a run ends. -/
structure Report where
  exit : Nat
  output : String
  errors : String

def succeed (output : String) : Report := ⟨0, output, ""⟩

/-- A failure with a message, after some lines that were printed before. -/
def failAfter (output message : String) : Report := ⟨1, output, "Error: " ++ message ++ "\n"⟩

def fail (message : String) : Report := failAfter "" message

def usage : Report :=
  ⟨2, "", "Usage: type-check [--config <CONFIG>] <COMMAND>\n" ++
    "Commands: check, parse, list, config\n"⟩

def line (s : String) : String := s ++ "\n"

/-! ## Check -/

/-- The keys to name instead of an unknown one. -/
def hint (ctx : Context Empty) (name : String) : String :=
  let keys := ctx.registry.suggest similarity name 3
  if keys = [] then "" else line ("Did you mean: " ++ String.intercalate ", " keys ++ "?")

/-- The failure of a spec that does not resolve. -/
def failResolve (ctx : Context Empty) (e : TypeError) : Report :=
  let r := fail e.message
  match e with
  | .unknownType name => { r with errors := hint ctx name ++ r.errors }
  | _ => r

/-- A line for each source of an error. -/
def sourceLines : TypeError → String
  | .invalidField _ _ _ source => line ("   └─ " ++ source.message) ++ sourceLines source
  | _ => ""

/-- The report on a value that a type does not take. -/
def refusal (t : Ty Empty) (e : TypeError) : Report :=
  ⟨1, line ("❌ " ++ t.name ++ " - INVALID") ++ line ("   " ++ e.message) ++ sourceLines e, ""⟩

/-- The report on the text of a value. -/
def checkText (format : OutputFormat) (t : Ty Empty) (text : String) : Report :=
  match Json.read? text with
  | none => fail "parsing input"
  | some v =>
    match t.build v with
    | .ok w => succeed (line (format.render w))
    | .error e => refusal t e

/-- Reads a file, or the standard input when none is named. -/
def readSource : Option String → Plan (Except String String)
  | some path => do
    match ← Plan.file path with
    | .ok text => return .ok text
    | .error fault => return .error ("reading " ++ Text.quoted path ++ ": " ++ fault.message)
  | none => return .ok (← Plan.input)

def check (c : Config) (spec : String) (input : Option String) : Plan Report := do
  match c.context (σ := Empty) with
  | .error e => return fail e.message
  | .ok ctx =>
    match ctx.resolve spec with
    | (.error e, ctx) => return failResolve ctx e
    | (.ok t, _) =>
      match ← readSource input with
      | .error message => return fail message
      | .ok text => return checkText c.format t text

/-! ## Parse -/

/-- The lines of a spec, one a level, each deeper than the one before. -/
def treeLines (depth : Nat) : TypeSpec → String
  | .simple key => line (lead depth ++ key)
  | .parametric container member => line (lead depth ++ container) ++ treeLines (depth + 1) member
where
  /-- What stands in front of a key. -/
  lead : Nat → String
    | 0 => ""
    | depth + 1 => String.ofList (List.replicate (3 * depth) ' ') ++ "└─ "

def parse (spec : String) : Report :=
  match TypeSpec.parse spec with
  | .ok tree => succeed (treeLines 0 tree)
  | .error e => fail e.message

/-! ## List -/

/-- A key and its kind in columns. -/
def listLine (key : String) (kind : Kind) : String :=
  line ("  " ++ key ++ String.ofList (List.replicate (24 - key.length) ' ') ++ " " ++ kind.name)

/-- The lines of some keys, after those printed before. -/
def listLines (ctx : Context Empty) (printed : String) : List String → Report
  | [] => succeed printed
  | key :: keys =>
    match ctx.resolve key with
    | (.ok t, ctx) => listLines ctx (printed ++ listLine key t.kind) keys
    | (.error e, _) => failAfter printed e.message

def list (c : Config) : Report :=
  match c.context (σ := Empty) with
  | .error e => fail e.message
  | .ok ctx =>
    let keys := ctx.registry.keys
    if keys = [] then fail "No types registered" else listLines ctx "" keys

/-! ## Configuration -/

/-- Prints the text of a configuration, or saves it. -/
def showConfig (c : Config) (save : Option String) : Plan Report := do
  match Config.Backend.toml.written c with
  | .error message => return fail message
  | .ok text =>
    match save with
    | none => return succeed text
    | some path =>
      match ← Plan.save path text with
      | none => return succeed (line ("✅ Configuration written to " ++ path))
      | some fault => return fail fault.message

/-! ## The program -/

def runCommand (c : Config) : Command → Plan Report
  | .check spec input => check c spec input
  | .parse spec => return parse spec
  | .list => return list c
  | .config save => showConfig c save

/-- The program with its arguments. -/
def run (around : Config.Surroundings) (args : List String) : Plan Report :=
  match readArguments? none args with
  | none => return usage
  | some a => do
    match ← Config.load around a.config with
    | none => return fail "loading configuration"
    | some c => runCommand c a.command

end ValueTypes.Cli
