/-
  Building: how a type takes a value, changes it and checks it.

  `Ty.build` goes through the envelope first (null of an optional type, then the steps), checks
  the kind, and descends: into every member of a list, with the index put in front of the place of
  an error, and into every declared field of a record.  Fields that are not declared are left out.
  The first error ends it; if it is a data error and there is a fallback, the fallback is the
  result.

  Building is recursion on the type.  `Ty.body` is what a type does inside its envelope, one level
  deep, and `Ty.build_eq` is all that later facts need of the recursion.
-/
import ValueTypes.Ty

namespace ValueTypes

/-- The outcome of building. -/
abbrev Outcome := Except TypeError Value

namespace Outcome

/-- The outcome with a fallback in place of a data error. -/
def recover (fallback : Option Value) : Outcome → Outcome
  | .ok v => .ok v
  | .error e =>
    match fallback with
    | some w => if e.isData then .ok w else .error e
    | none => .error e

end Outcome

namespace Envelope

variable {σ : Type} [StepMeaning σ]

/-- The outcome before the fallback: null passes an optional type, any other value runs through the
    steps and then through the body. -/
def attempt (e : Envelope σ) (body : Value → Outcome) (v : Value) : Outcome :=
  if e.optional && v.isNull then .ok .null
  else
    match Step.runAll e.steps v with
    | .ok w => body w
    | .error err => .error err

/-- The outcome of a type with this envelope around a body. -/
def build (e : Envelope σ) (body : Value → Outcome) (v : Value) : Outcome :=
  (e.attempt body v).recover e.fallback

end Envelope

/-- The check of a kind. -/
def Kind.check (k : Kind) (v : Value) : Outcome :=
  if k.accepts v then .ok v else .error (.invalidValue none v k.name)

/-- The key of the place `i` in a list. -/
def indexKey (i : Nat) : String := String.ofList (Text.digits i)

/-- Every item through `build`, from the place `i` on, up to the first failure. -/
def buildItems (build : Value → Outcome) (i : Nat) : List Value → Except TypeError (List Value)
  | [] => .ok []
  | v :: vs =>
    match build v with
    | .error e => .error (e.atKey (indexKey i))
    | .ok w =>
      match buildItems build (i + 1) vs with
      | .error e => .error e
      | .ok ws => .ok (w :: ws)

namespace Ty

variable {σ : Type} [StepMeaning σ]

mutual

/-- What the type makes of a value. -/
def build : Ty σ → Value → Outcome
  | plain e k, v => e.build (k.check) v
  | list e m, v =>
    e.build (fun
      | .arr items => (buildItems m.build 0 items).map .arr
      | w => Kind.array.check w) v
  | record e _ fields, v =>
    e.build (fun
      | .obj input => (buildFields fields input).map .obj
      | w => Kind.hash.check w) v

/-- The declared fields of an object, each built by its type, up to the first that is missing or
    fails. -/
def buildFields : List (String × Ty σ) → Entries Value → Except TypeError (Entries Value)
  | [], _ => .ok []
  | (f, t) :: fields, input =>
    match input.get? f with
    | none => .error (.missingField f)
    | some v =>
      match t.build v with
      | .error e => .error (.invalidField f v t.name e)
      | .ok w =>
        match buildFields fields input with
        | .error e => .error e
        | .ok out => .ok (out.insert f w)

end

/-- What the type makes of a value that is through the steps. -/
def body : Ty σ → Value → Outcome
  | plain _ k => k.check
  | list _ m => fun
    | .arr items => (buildItems m.build 0 items).map .arr
    | w => Kind.array.check w
  | record _ _ fields => fun
    | .obj input => (buildFields fields input).map .obj
    | w => Kind.hash.check w

/-- A type builds by its body inside its envelope. -/
theorem build_eq (t : Ty σ) (v : Value) : t.build v = t.envelope.build t.body v := by
  cases t <;> rfl

/-- Whether the type takes a value. -/
def accepts (t : Ty σ) (v : Value) : Bool := (t.build v).isOk

end Ty

end ValueTypes
