/-
  The registry: types and lazy factories under keys.

  A key is bound to a type, or to a factory that builds the type when it is first looked up; the
  type it built is kept and returned from then on.  A factory that ran twice would make two
  instances, so it matters that it runs once: the registry notes every run, by the ticket of the
  registration.  Binding a key again replaces what was bound.
-/
import ValueTypes.Record
import ValueTypes.Identifier

namespace ValueTypes

/-- A type made from the next serial number, and the next number after it. -/
abbrev Factory (σ : Type) := Nat → Ty σ × Nat

/-- What a key is bound to. -/
inductive Binding (σ : Type) where
  | type (t : Ty σ)
  /-- A factory, the ticket of its registration, and the type once it is built. -/
  | lazy (factory : Factory σ) (ticket : Nat) (built : Option (Ty σ))

/-- The bindings, and the tickets of the factories that were run, the latest first. -/
structure Registry (σ : Type) where
  bindings : Dict (Binding σ)
  runs : List Nat

namespace Registry

variable {σ : Type}

def empty : Registry σ := ⟨.empty, []⟩

/-- Binds a key, in place of what it was bound to. -/
def bind (r : Registry σ) (key : String) (b : Binding σ) : Registry σ :=
  { r with bindings := r.bindings.insert key b }

def register (r : Registry σ) (key : String) (t : Ty σ) : Registry σ := r.bind key (.type t)

def registerLazy (r : Registry σ) (key : String) (factory : Factory σ) (ticket : Nat) : Registry σ :=
  r.bind key (.lazy factory ticket none)

/-- The type under a key, the registry after the look-up and the next serial number.  The first
    look-up of a lazy binding runs its factory.  The supply of numbers never goes back, whatever
    number the factory gives. -/
def resolve (r : Registry σ) (next : Nat) (key : String) :
    Except TypeError (Ty σ) × Registry σ × Nat :=
  match r.bindings.get? key with
  | none => (.error (.unknownType key), r, next)
  | some (.type t) => (.ok t, r, next)
  | some (.lazy _ _ (some t)) => (.ok t, r, next)
  | some (.lazy factory ticket none) =>
    let (t, after) := factory next
    (.ok t, ⟨r.bindings.insert key (.lazy factory ticket (some t)), ticket :: r.runs⟩,
      max next after)

/-- How often the factory of a registration was run. -/
def timesRun (r : Registry σ) (ticket : Nat) : Nat := r.runs.count ticket

def contains (r : Registry σ) (key : String) : Bool := r.bindings.contains key

/-- The keys, in increasing order. -/
def keys (r : Registry σ) : List String := r.bindings.keys

def size (r : Registry σ) : Nat := r.bindings.size

/-- Whether a scored key comes before another: by higher score, then by smaller key. -/
def ranksBefore (a b : Int × String) : Bool :=
  decide (b.1 < a.1) || (decide (a.1 = b.1) && decide (a.2 ≤ b.2))

/-- The keys that resemble `name`, best first, at most `limit` of them. -/
def suggest (r : Registry σ) (score : String → String → Option Int) (name : String)
    (limit : Nat) : List String :=
  let scored := r.keys.filterMap fun key => (score key name).map (·, key)
  ((scored.mergeSort ranksBefore).take limit).map Prod.snd

end Registry

end ValueTypes
