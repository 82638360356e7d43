/-
  Plans: programs that read and write files, described as data.

  A plan says what it reads or writes next and how it goes on from the answer; it does nothing by
  itself.  Running one on a disk is the matter of the outermost layer, and running one on files
  held in memory needs no disk at all.
-/
import ValueTypes.FileFault

namespace ValueTypes

/-- A program over files that ends with an `α`.  A file answers with its text or with what is at
    fault; writing answers only with what is at fault. -/
inductive Plan (α : Type) where
  | done (a : α)
  | fetch (path : String) (next : Except FileFault String → Plan α)
  | listen (next : String → Plan α)
  | store (path text : String) (next : Option FileFault → Plan α)

namespace Plan

variable {α β : Type}

/-- The plan that goes on with `f`. -/
def andThen (f : α → Plan β) : Plan α → Plan β
  | done a => f a
  | fetch path next => fetch path fun r => (next r).andThen f
  | listen next => listen fun s => (next s).andThen f
  | store path text next => store path text fun r => (next r).andThen f

instance : Monad Plan where
  pure := done
  bind p f := p.andThen f

/-- The text of a file, or what is at fault with its path. -/
def file (path : String) : Plan (Except FileFault String) := fetch path done

/-- The standard input. -/
def input : Plan String := listen done

/-- Writes a file; the answer is what is at fault, if anything is. -/
def save (path text : String) : Plan (Option FileFault) := store path text done

end Plan

end ValueTypes
