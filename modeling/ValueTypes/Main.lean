/-
  The outermost layer of the command line program: it runs the plan on the disk and prints the
  report.
-/
import ValueTypes.Cli

namespace ValueTypes.Cli

/-- What a failed access says of the path. -/
def faultOf (e : IO.Error) : FileFault :=
  match e with
  | .noFileOrDirectory _ _ _ => .absent
  | .inappropriateType _ 21 _ => .directory
  | .inappropriateType _ _ _ => .notDirectory
  | .invalidArgument _ 22 _ => .hasNul
  | .invalidArgument _ _ _ => .tooLong
  | e => .other (toString e)

/-- Runs a plan on the disk. -/
def perform {α : Type} : Plan α → IO α
  | .done a => pure a
  | .fetch path next => do
    let answer ← try pure (Except.ok (← IO.FS.readFile path)) catch e =>
      pure (Except.error (faultOf e))
    perform (next answer)
  | .listen next => do perform (next (← (← IO.getStdin).readToEnd))
  | .store path text next => do
    let answer ← try
        IO.FS.writeFile path text
        pure none
      catch e => pure (some (faultOf e))
    perform (next answer)

/-- A variable as the system lists it. -/
def variableOf (entry : String) : String × String :=
  let cs := entry.toList
  (String.ofList (cs.takeWhile (· != '=')), String.ofList ((cs.dropWhile (· != '=')).drop 1))

/-- The variables that are set, from the system's own list of them. -/
def listVariables : IO (List (String × String)) := do
  try
    let text ← IO.FS.readFile "/proc/self/environ"
    pure ((text.splitOn "\x00").map variableOf)
  catch _ => pure []

/-- The environment, and the directory of configurations that it names. -/
def findSurroundings : IO Config.Surroundings := do
  let own ← IO.getEnv "XDG_CONFIG_HOME"
  let home ← IO.getEnv "HOME"
  let standard := home.map fun dir => dir ++ "/.config"
  pure ⟨← listVariables, match own with
    | some dir => if dir.startsWith "/" then some dir else standard
    | none => standard⟩

end ValueTypes.Cli

open ValueTypes in
def main (args : List String) : IO UInt32 := do
  let report ← Cli.perform (Cli.run (← Cli.findSurroundings) args)
  IO.print report.output
  IO.eprint report.errors
  pure (UInt32.ofNat report.exit)
