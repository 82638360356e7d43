/-
  The arguments of the command line.

  A command may follow an option that names a document of configuration.  An option is given in
  full or by one letter, its value as the next argument or attached; a value that is the next
  argument does not start with a dash, unless it is the dash alone.  After a double dash nothing is
  an option.  No option is given twice.
-/

namespace ValueTypes.Cli

/-- What the program is asked to do. -/
inductive Command where
  | check (spec : String) (input : Option String)
  | parse (spec : String)
  | list
  | config (save : Option String)
  deriving DecidableEq

structure Arguments where
  config : Option String
  command : Command
  deriving DecidableEq

/-- An option that takes a value. -/
structure OptionName where
  long : String
  short : Option Char
  deriving DecidableEq

/-- Whether an argument looks like an option. -/
def isDashed (arg : String) : Bool :=
  match arg.toList with
  | ['-'] => false
  | '-' :: _ => true
  | _ => false

/-- How an argument names an option: not at all, alone, or with a value attached. -/
inductive OptionUse where
  | other
  | alone
  | attached (value : String)

/-- The text after `start`, if it starts so. -/
def after? (start cs : List Char) : Option (List Char) :=
  if start.isPrefixOf cs then some (cs.drop start.length) else none

/-- How an argument names the option `o`. -/
def OptionName.useIn (o : OptionName) (arg : String) : OptionUse :=
  let cs := arg.toList
  match after? ('-' :: '-' :: o.long.toList) cs with
  | some [] => .alone
  | some ('=' :: value) => .attached (String.ofList value)
  | _ =>
    match o.short.bind fun c => after? ['-', c] cs with
    | some [] => .alone
    | some ('=' :: value) => .attached (String.ofList value)
    | some value => .attached (String.ofList value)
    | none => .other

/-- The arguments of one command: the value of its option, if it has one and it is given, and its
    plain arguments.  `found` and `plain` hold what was read before, and `closed` says that a double
    dash was read. -/
def readOptions? (o : Option OptionName) (found : Option String) (plain : List String)
    (closed : Bool) : List String → Option (Option String × List String)
  | [] => some (found, plain.reverse)
  | arg :: args =>
    if closed then readOptions? o found (arg :: plain) true args
    else if arg = "--" then readOptions? o found plain true args
    else
      match (o.map fun o => o.useIn arg).getD .other, args with
      | .attached value, args =>
        if found.isSome then none else readOptions? o (some value) plain false args
      | .alone, value :: args =>
        if found.isSome ∨ isDashed value then none else readOptions? o (some value) plain false args
      | .alone, [] => none
      | .other, args => if isDashed arg then none else readOptions? o found (arg :: plain) false args

def configOption : OptionName := ⟨"config", some 'c'⟩
def inputOption : OptionName := ⟨"input", some 'i'⟩
def saveOption : OptionName := ⟨"save", none⟩

/-- The command of a name with its arguments. -/
def readCommand? (name : String) (args : List String) : Option Command :=
  if name = "check" then
    match readOptions? (some inputOption) none [] false args with
    | some (input, [spec]) => if input = some "" then none else some (.check spec input)
    | _ => none
  else if name = "parse" then
    match readOptions? none none [] false args with
    | some (_, [spec]) => some (.parse spec)
    | _ => none
  else if name = "list" then
    match readOptions? none none [] false args with
    | some (_, []) => some .list
    | _ => none
  else if name = "config" then
    match readOptions? (some saveOption) none [] false args with
    | some (save, []) => some (.config save)
    | _ => none
  else none

/-- The arguments in front of the command and the command itself. -/
def readArguments? (found : Option String) : List String → Option Arguments
  | [] => none
  | arg :: args =>
    match configOption.useIn arg, args with
    | .attached value, args => if found.isSome then none else readArguments? (some value) args
    | .alone, value :: args =>
      if found.isSome ∨ isDashed value then none else readArguments? (some value) args
    | .alone, [] => none
    | .other, args => (readCommand? arg args).map fun command => ⟨found, command⟩

end ValueTypes.Cli
