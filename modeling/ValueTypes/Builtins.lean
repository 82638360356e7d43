/-
  The built-in types, in three namespaces.

  Under the name of each kind stands the type that checks only the kind, under `optional.` and the
  name the same type with null let through, and under `coercible.` and the name the types that
  convert a value before they check it.
-/
import ValueTypes.Registry

namespace ValueTypes.Builtins

/-- Which of the namespaces are installed beside the bare names. -/
structure Namespaces where
  optional : Bool
  coercible : Bool
  deriving DecidableEq

def Namespaces.all : Namespaces := ⟨true, true⟩

variable {σ : Type}

/-- The conversions in the order in which their types are registered. -/
def coercions : List Coercion := [.toText, .toInteger, .toFloat]

def coercibleName (c : Coercion) : String := "coercible." ++ c.kind.name

def optionalName (k : Kind) : String := "optional." ++ k.name

/-- The type of a conversion: its instance has the number after that of its step. -/
def coercible (next : Nat) (c : Coercion) : Ty σ :=
  (Ty.new next (coercibleName c) c.kind).withStep (next + 1) ⟨next, .coerce c⟩

/-- The types of one kind, numbered from `next` on. -/
def installKind (ns : Namespaces) (r : Registry σ) (next : Nat) (k : Kind) : Registry σ :=
  let strict := Ty.nominal next k
  let r := if ns.optional then r.register (optionalName k) (strict.optional (next + 1)) else r
  r.register k.name strict

/-- The types of the listed kinds, and the next free number. -/
def installKinds (ns : Namespaces) : List Kind → Registry σ → Nat → Registry σ × Nat
  | [], r, next => (r, next)
  | k :: ks, r, next => installKinds ns ks (installKind ns r next k) (next + 2)

/-- The types of the listed conversions, and the next free number. -/
def installCoercions : List Coercion → Registry σ → Nat → Registry σ × Nat
  | [], r, next => (r, next)
  | c :: cs, r, next => installCoercions cs (r.register (coercibleName c) (coercible next c)) (next + 2)

/-- The registry with every built-in type of the selected namespaces. -/
def install (ns : Namespaces) (r : Registry σ) (next : Nat) : Registry σ × Nat :=
  let (r, next) := installKinds ns Kind.all r next
  if ns.coercible then installCoercions coercions r next else (r, next)

end ValueTypes.Builtins
