/-
  The steps of a type: the functions that a value runs through before it is checked.

  A step is described by data, so that types can be compared.  Besides the conversions of this
  library there are the steps that users bring; what those do is given by an instance of
  `StepMeaning`, and everything here holds for every such instance.  A codec is a step that decodes
  a value and encodes it again, and reports a failure under its key.

  Two steps are the same only if they are one step: `serial` tells apart two that were added by
  different calls, and what a step does is fixed by its description.
-/
import ValueTypes.Coercion

namespace ValueTypes

/-- Why a codec gives no value. -/
inductive CodecFailure where
  /-- The value cannot be decoded. -/
  | refused
  /-- What was decoded cannot be encoded. -/
  | unwritable (reason : String)

/-- What the steps that users bring do to a value. -/
class StepMeaning (σ : Type) where
  apply : σ → Value → Except TypeError Value
  recode : σ → Value → Except CodecFailure Value

/-- Types may have no steps but the conversions. -/
instance : StepMeaning Empty := ⟨fun op _ => op.elim, fun op _ => op.elim⟩

/-- The description of a step. -/
inductive Op (σ : Type) where
  | coerce (c : Coercion)
  | custom (op : σ)
  | codec (key : String) (op : σ)
  deriving DecidableEq

/-- A step of a type. -/
structure Step (σ : Type) where
  serial : Nat
  op : Op σ
  deriving DecidableEq

namespace Op

variable {σ : Type} [StepMeaning σ]

def apply : Op σ → Value → Except TypeError Value
  | coerce c, v => c.apply v
  | custom op, v => StepMeaning.apply op v
  | codec key op, v =>
    match StepMeaning.recode op v with
    | .ok w => .ok w
    | .error .refused => .error (.invalidValue none v key)
    | .error (.unwritable reason) => .error (.invalidComposition (key ++ ": " ++ reason))

end Op

namespace Step

variable {σ : Type} [StepMeaning σ]

/-- The value after a chain of steps, or the error of the first that fails. -/
def runAll : List (Step σ) → Value → Except TypeError Value
  | [], v => .ok v
  | s :: steps, v =>
    match s.op.apply v with
    | .ok w => runAll steps w
    | .error e => .error e

end Step

end ValueTypes
