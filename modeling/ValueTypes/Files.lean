/-
  Files held in memory, and plans run on them.

  A path is followed name by name from the working directory or from the root.  Whatever it goes on
  from must be a directory: `.` and an empty name stay there, `..` goes up, and above the root there
  is nothing but the root.  Directories above the working directory are there, but nothing in them
  is known besides the way down; below the root there are the usual directories, a device that
  swallows what is written, and the standard input.
-/
import ValueTypes.Plan

namespace ValueTypes

/-- Where the names of a place are counted from. -/
inductive Origin where
  | root
  /-- The working directory, or a directory some levels above it. -/
  | working (above : Nat)
deriving DecidableEq, Repr

/-- A place in the tree of directories: the names that lead down to it. -/
structure Place where
  origin : Origin
  names : List String
deriving DecidableEq, Repr

namespace Place

/-- The place of a name in a directory. -/
def child (p : Place) (name : String) : Place := ⟨p.origin, p.names ++ [name]⟩

/-- The directory that a place is in. -/
def parent (p : Place) : Place :=
  match p.names, p.origin with
  | [], .root => p
  | [], .working n => ⟨.working (n + 1), []⟩
  | names, origin => ⟨origin, names.dropLast⟩

end Place

/-- What is found at a place. -/
inductive FileNode where
  | directory
  | text (s : String)
  /-- A device that swallows what is written and has nothing to read. -/
  | sink
deriving DecidableEq, Repr

/-- What is where, each place once. -/
abbrev Files := List (Place × FileNode)

namespace Files

/-- What is at a place; where names are counted from there is always a directory. -/
def node? (files : Files) (p : Place) : Option FileNode :=
  if p.names = [] then some .directory else files.lookup p

/-- Puts something at a place, instead of what was there. -/
def put (files : Files) (p : Place) (n : FileNode) : Files :=
  (p, n) :: files.filter fun f => f.1 ≠ p

/-! ## Paths -/

/-- The most bytes that a name in a path may have. -/
def maxName : Nat := 255

/-- The bytes that a whole path must stay below. -/
def pathLimit : Nat := 4096

/-- The place that is reached from `p` through some names, or what is in the way. -/
def follow (files : Files) (p : Place) : List String → Except FileFault Place
  | [] => .ok p
  | name :: names =>
    match files.node? p with
    | none => .error .absent
    | some .directory =>
      if name = "" ∨ name = "." then files.follow p names
      else if name = ".." then files.follow p.parent names
      else if maxName < name.utf8ByteSize then .error .tooLong
      else files.follow (p.child name) names
    | some _ => .error .notDirectory

/-- Where a path starts. -/
def start (path : String) : Place := ⟨if path.startsWith "/" then .root else .working 0, []⟩

/-- The names of a path, in their order, if it is a path at all. -/
def names (path : String) : Except FileFault (List String) :=
  if '\x00' ∈ path.toList then .error .hasNul
  else if path = "" then .error .absent
  else if pathLimit ≤ path.utf8ByteSize then .error .tooLong
  else .ok (path.splitOn "/")

/-- The place that a path leads to, or what is in the way. -/
def locate (files : Files) (path : String) : Except FileFault Place := do
  files.follow (start path) (← names path)

/-- The names before the last one of a path with slashes at its end, if that one names something:
    it is not a dot or two. -/
def beforeSlashed? (names : List String) : Option (List String) :=
  if names.getLast? = some "" then
    match names.reverse.dropWhile (· = "") with
    | [] => none
    | name :: before => if name = "." ∨ name = ".." then none else some before.reverse
  else none

/-! ## Reading and writing -/

/-- The text of a file, or what is at fault with its path. -/
def read (files : Files) (path : String) : Except FileFault String := do
  match files.node? (← files.locate path) with
  | some (.text s) => .ok s
  | some .sink => .ok ""
  | some .directory => .error .directory
  | none => .error .absent

/-- The files after a text was put at a place. -/
def writeAt (files : Files) (p : Place) (text : String) : Except FileFault Files :=
  match files.node? p with
  | some .directory => .error .directory
  | some .sink => .ok files
  | _ => .ok (files.put p (.text text))

/-- The files after one was written, or what is at fault with its path.  A file is made where there
    is none, but not under a path with a slash at its end, whatever is there. -/
def write (files : Files) (path text : String) : Except FileFault Files := do
  let names ← names path
  match beforeSlashed? names with
  | some before =>
    let _ ← files.follow (start path) (before ++ ["."])
    .error .directory
  | none => files.writeAt (← files.follow (start path) names) text

/-! ## Building -/

/-- What is there before any files are made. -/
def system (input : String) : Files :=
  let directories := ["bin", "boot", "dev", "etc", "home", "lib", "media", "mnt", "opt", "proc",
    "root", "run", "sbin", "srv", "sys", "tmp", "usr", "var"]
  [(⟨.root, ["dev", "null"]⟩, .sink), (⟨.root, ["dev", "stdin"]⟩, .text input)] ++
    directories.map fun name => (⟨.root, [name]⟩, .directory)

/-- Puts a text under some names that lead down from `p`, and makes the directories in between. -/
def make (files : Files) (text : String) (p : Place) : List String → Files
  | [] => files.put p (.text text)
  | name :: names =>
    let files := if (files.node? p).isSome then files else files.put p .directory
    if name = "" ∨ name = "." then files.make text p names
    else if name = ".." then files.make text p.parent names
    else files.make text (p.child name) names

/-- Files under the given paths, with the directories that they need, beside what is there. -/
def ofList (input : String) (named : List (String × String)) : Files :=
  named.foldl (fun files f => files.make f.2 (start f.1) (f.1.splitOn "/")) (system input)

end Files

/-- The result of a plan with some files and a standard input, and the files after it. -/
def Plan.runOn {α : Type} (input : String) (files : Files) : Plan α → α × Files
  | .done a => (a, files)
  | .fetch path next => (next (files.read path)).runOn input files
  | .listen next => (next input).runOn input files
  | .store path text next =>
    match files.write path text with
    | .ok files => (next none).runOn input files
    | .error fault => (next (some fault)).runOn input files

end ValueTypes
