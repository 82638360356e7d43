/-
  Builders: named operators that make a type from a type and some arguments.

  A builder draws the serial numbers of the instances it makes from a supply, whose next number it
  is given and gives back.  Removing a builder leaves the types it has made as they are.
-/
import ValueTypes.Ty

namespace ValueTypes

/-- A type from a type, some arguments, and the next serial number. -/
abbrev Builder (σ : Type) := Ty σ → List Value → Nat → Except TypeError (Ty σ × Nat)

/-- Builders by name. -/
abbrev Builders (σ : Type) := Dict (Builder σ)

/-- The named builder applied to a type. -/
def Builders.apply {σ : Type} (b : Builders σ) (name : String) (t : Ty σ) (args : List Value)
    (next : Nat) : Except TypeError (Ty σ × Nat) :=
  match b.get? name with
  | some builder => builder t args next
  | none => .error (.unknownBuilder name)

end ValueTypes
