/-
  Types of dynamic values.

  A type has an envelope and a body.  The body is what is checked in the end: a primitive kind, a
  list whose members have a type, or a record with a type for each field.  The envelope goes around
  it: a display name, the steps that a value runs through first, whether null is let through, and
  the value that stands in when building fails on bad input.

  Types are immutable: each operation gives a new type.  Every type is an instance of its own,
  known by its serial number, which the caller draws from a supply; `Ty.same` compares types by
  their structure and does not look at these numbers.
-/
import ValueTypes.Step

namespace ValueTypes

/-- What goes around the body of a type. -/
structure Envelope (σ : Type) where
  /-- The number of the instance. -/
  serial : Nat
  /-- The display name. -/
  name : String
  /-- The steps, the first one first. -/
  steps : List (Step σ)
  /-- Whether null is let through before any step. -/
  optional : Bool
  /-- The value that stands in when building fails on bad input. -/
  fallback : Option Value

/-- A type. -/
inductive Ty (σ : Type) where
  | plain (envelope : Envelope σ) (kind : Kind)
  | list (envelope : Envelope σ) (member : Ty σ)
  | record (envelope : Envelope σ) (schema : String) (fields : List (String × Ty σ))

namespace Ty

variable {σ : Type}

/-! ## Parts -/

def envelope : Ty σ → Envelope σ
  | plain e _ => e
  | list e _ => e
  | record e _ _ => e

def serial (t : Ty σ) : Nat := t.envelope.serial

def name (t : Ty σ) : String := t.envelope.name

def steps (t : Ty σ) : List (Step σ) := t.envelope.steps

def isOptional (t : Ty σ) : Bool := t.envelope.optional

def fallback (t : Ty σ) : Option Value := t.envelope.fallback

/-- The kind that a value has after the steps. -/
def kind : Ty σ → Kind
  | plain _ k => k
  | list _ _ => .array
  | record _ _ _ => .hash

/-- The type of the members of a list. -/
def member? : Ty σ → Option (Ty σ)
  | list _ m => some m
  | _ => none

/-- The name of the schema of a record, and its fields in the order of their declaration. -/
def schema? : Ty σ → Option (String × List (String × Ty σ))
  | record _ schema fields => some (schema, fields)
  | _ => none

/-- Whether two types are one instance. -/
def isInstance (a b : Ty σ) : Bool := a.serial == b.serial

/-- The type and its members, from the outside in. -/
def chain : Ty σ → List (Ty σ)
  | list e m => list e m :: m.chain
  | t => [t]

/-! ## Composition -/

/-- A type that only checks a kind, under a name of its own. -/
def new (serial : Nat) (name : String) (kind : Kind) : Ty σ :=
  plain ⟨serial, name, [], false, none⟩ kind

/-- A type that only checks a kind, under the name of the kind. -/
def nominal (serial : Nat) (kind : Kind) : Ty σ := new serial kind.name kind

/-- The type with another envelope. -/
def withEnvelope (t : Ty σ) (e : Envelope σ) : Ty σ :=
  match t with
  | plain _ k => plain e k
  | list _ m => list e m
  | record _ schema fields => record e schema fields

def named (t : Ty σ) (serial : Nat) (name : String) : Ty σ :=
  t.withEnvelope { t.envelope with serial := serial, name := name }

/-- The type with one more step at the end of its chain. -/
def withStep (t : Ty σ) (serial : Nat) (step : Step σ) : Ty σ :=
  t.withEnvelope { t.envelope with serial := serial, steps := t.steps ++ [step] }

/-- The type that also takes null. -/
def optional (t : Ty σ) (serial : Nat) : Ty σ :=
  t.withEnvelope { t.envelope with serial := serial, optional := true }

/-- The type that gives `value` where it would fail on bad input. -/
def withFallback (t : Ty σ) (serial : Nat) (value : Value) : Ty σ :=
  t.withEnvelope { t.envelope with serial := serial, fallback := some value }

/-- The name of a container with members of a type. -/
def memberName (container member : String) : String := container ++ "<" ++ member ++ ">"

/-- The collection type `t` with members of type `m`.  A type that is no collection takes no
    members, and a collection takes them once. -/
def withMember (t : Ty σ) (serial : Nat) (m : Ty σ) : Except TypeError (Ty σ) :=
  match t with
  | list _ existing =>
    .error (.invalidComposition (t.name ++ " is already parametrized by " ++ existing.name))
  | plain e k =>
    if k.isCollection then
      .ok (list { e with serial := serial, name := memberName e.name m.name } m)
    else refusal
  | record _ _ _ => refusal
where
  refusal : Except TypeError (Ty σ) :=
    .error (.invalidComposition (t.name ++ " (" ++ t.kind.name ++ ") does not take a member type"))

/-- A member type leaves the kind of its container as it is. -/
theorem kind_of_withMember {t u m : Ty σ} {serial : Nat} (h : t.withMember serial m = .ok u) :
    u.kind = t.kind := by
  cases t with
  | plain e k =>
    rw [withMember] at h
    split at h
    · next hk =>
      cases h
      exact (Kind.isCollection_iff.1 hk).symm
    · cases h
  | list e existing => cases h
  | record e schema fields => cases h

/-! ## Equality -/

/-- Whether two fallbacks are equal as values. -/
def sameFallback : Option Value → Option Value → Bool
  | none, none => true
  | some v, some w => v.same w
  | _, _ => false

/-- Whether two envelopes agree in all but the number of the instance. -/
def sameEnvelope [DecidableEq σ] (a b : Envelope σ) : Bool :=
  a.name == b.name && decide (a.steps = b.steps) && a.optional == b.optional &&
    sameFallback a.fallback b.fallback

mutual

/-- Whether two types are equal: alike in every part, steps by identity. -/
def same [DecidableEq σ] : Ty σ → Ty σ → Bool
  | plain e k, plain f l => sameEnvelope e f && decide (k = l)
  | list e m, list f n => sameEnvelope e f && same m n
  | record e s fs, record f t gs => sameEnvelope e f && s == t && sameFields fs gs
  | _, _ => false

def sameFields [DecidableEq σ] : List (String × Ty σ) → List (String × Ty σ) → Bool
  | [], [] => true
  | (f, t) :: fs, (g, u) :: gs => f == g && same t u && sameFields fs gs
  | _, _ => false

end

end Ty

end ValueTypes
