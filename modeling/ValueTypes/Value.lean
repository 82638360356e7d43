/-
  Dynamic values: null, booleans, integers, doubles, texts, lists and objects.

  An integer and a double are never the same value.  An object is a list of entries in the order
  of their keys; `Value.Canonical` says that every object of a value is one and that every integer
  fits 64 bits, signed or unsigned, which holds of every value read from text.

  `Value.same` is equality of values.  It differs from equality of representations in one pair
  only: the two zeros are the same double.
-/
import ValueTypes.Number.Double
import ValueTypes.Dict

namespace ValueTypes

/-- A dynamic value. -/
inductive Value where
  | null
  | bool (b : Bool)
  | int (n : Int)
  | float (x : Double)
  | str (s : String)
  | arr (items : List Value)
  | obj (fields : List (String × Value))

namespace Value

instance : Inhabited Value := ⟨null⟩

def isNull : Value → Bool
  | null => true
  | _ => false

/-- The integers that a value can hold. -/
def intInRange (n : Int) : Bool := fitsSigned n || fitsUnsigned n

mutual

/-- Every object of the value has increasing keys and every integer is in range. -/
def Canonical : Value → Prop
  | arr items => CanonicalItems items
  | obj fields => Entries.Sorted fields ∧ CanonicalFields fields
  | int n => intInRange n = true
  | _ => True

def CanonicalItems : List Value → Prop
  | [] => True
  | v :: vs => Canonical v ∧ CanonicalItems vs

def CanonicalFields : List (String × Value) → Prop
  | [] => True
  | (_, v) :: fs => Canonical v ∧ CanonicalFields fs

end

mutual

/-- Whether two values are equal. -/
def same : Value → Value → Bool
  | null, null => true
  | bool a, bool b => a == b
  | int a, int b => a == b
  | float a, float b => a.same b
  | str a, str b => a == b
  | arr a, arr b => sameItems a b
  | obj a, obj b => sameFields a b
  | _, _ => false

def sameItems : List Value → List Value → Bool
  | [], [] => true
  | a :: as, b :: bs => same a b && sameItems as bs
  | _, _ => false

def sameFields : List (String × Value) → List (String × Value) → Bool
  | [], [] => true
  | (k, a) :: as, (l, b) :: bs => k == l && same a b && sameFields as bs
  | _, _ => false

end

end Value

end ValueTypes
