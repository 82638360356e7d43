/-
  Why a file cannot be read or written.

  The causes are told apart by what is in the way of the path; `FileFault.message` words them as a
  system does.
-/

namespace ValueTypes

/-- What is at fault with a path. -/
inductive FileFault where
  /-- Nothing is there. -/
  | absent
  /-- The path goes on from something that is no directory. -/
  | notDirectory
  /-- The path leads to a directory where a file is wanted. -/
  | directory
  /-- The path, or a name in it, is longer than names may be. -/
  | tooLong
  /-- The path holds the character NUL. -/
  | hasNul
  /-- What else a disk may report, in its own words. -/
  | other (reason : String)
deriving DecidableEq, Repr

namespace FileFault

def message : FileFault → String
  | absent => "No such file or directory (os error 2)"
  | notDirectory => "Not a directory (os error 20)"
  | directory => "Is a directory (os error 21)"
  | tooLong => "File name too long (os error 36)"
  | hasNul => "file name contained an unexpected NUL byte"
  | other reason => reason

end FileFault

end ValueTypes
