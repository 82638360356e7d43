/-
  What can go wrong when a type is composed, resolved or used.

  Three of the causes are data errors: the input value is at fault, and a fallback may stand in for
  it.  The others say that the types were put together wrongly, and no fallback hides them.  A data
  error knows its place: `TypeError.atKey` puts an index in front of it, so that the place reads
  from the outside in.
-/
import ValueTypes.Json.Writer
import ValueTypes.Text.Quoted

namespace ValueTypes

inductive TypeError where
  /-- No binding of that name. -/
  | unknownType (name : String)
  /-- A value of the wrong shape, at the place `key` of a list if it is inside one. -/
  | invalidValue (key : Option String) (value : Value) (expected : String)
  /-- Types that do not fit together. -/
  | invalidComposition (reason : String)
  /-- A declared field that the object does not have. -/
  | missingField (field : String)
  /-- A declared field whose value its type refuses because of `source`. -/
  | invalidField (field : String) (value : Value) (expected : String) (source : TypeError)
  /-- A text that is no type spec. -/
  | malformedSpec (spec : String) (reason : String)
  /-- No builder of that name. -/
  | unknownBuilder (name : String)

namespace TypeError

/-- Whether the input value is to blame. -/
def isData : TypeError → Bool
  | invalidValue .. => true
  | missingField .. => true
  | invalidField .. => true
  | _ => false

/-- The error that this one was raised for, if it wraps another. -/
def source? : TypeError → Option TypeError
  | invalidField _ _ _ e => some e
  | _ => none

/-- The error at the end of the chain of sources. -/
def root : TypeError → TypeError
  | invalidField _ _ _ e => e.root
  | e => e

/-- A path that starts with `start` and goes on with `rest`. -/
def joinPath (start : String) : Option String → String
  | some rest => start ++ "." ++ rest
  | none => start

/-- The same error seen from outside, where its place starts with `start`. -/
def atKey (start : String) : TypeError → TypeError
  | invalidValue key value expected =>
    invalidValue (some (joinPath start key)) value expected
  | missingField field => missingField (joinPath start (some field))
  | invalidField field value expected source =>
    invalidField (joinPath start (some field)) value expected source
  | e => e

/-- The name by which a message calls the shape of a value. -/
def shapeName : Value → String
  | .null => "null"
  | .bool _ => "bool"
  | .int _ => "integer"
  | .float _ => "float"
  | .str _ => "string"
  | .arr _ => "array"
  | .obj _ => "hash"

def describe (v : Value) : String := Json.compact v ++ " (" ++ shapeName v ++ ")"

/-- The text of an error.  It says nothing about the source. -/
def message : TypeError → String
  | unknownType name => "Unknown type: " ++ name
  | invalidValue key value expected =>
    let place := match key with
      | some k => " at [" ++ k ++ "]"
      | none => ""
    describe value ++ " has invalid type" ++ place ++ ", expected " ++ expected
  | invalidComposition reason => "Invalid composition: " ++ reason
  | missingField field => ":" ++ field ++ " is missing in hash input"
  | invalidField field value expected _ =>
    describe value ++ " has invalid type for :" ++ field ++ ", expected " ++ expected
  | malformedSpec spec reason => "Malformed type spec " ++ Text.quoted spec ++ ": " ++ reason
  | unknownBuilder name => "Unknown builder: " ++ name

/-- Whether two errors are equal, values by equality of values. -/
def same : TypeError → TypeError → Bool
  | unknownType a, unknownType b => a == b
  | invalidValue k v x, invalidValue l w y => k == l && v.same w && x == y
  | invalidComposition a, invalidComposition b => a == b
  | missingField a, missingField b => a == b
  | invalidField f v x e, invalidField g w y d => f == g && v.same w && x == y && e.same d
  | malformedSpec a r, malformedSpec b s => a == b && r == s
  | unknownBuilder a, unknownBuilder b => a == b
  | _, _ => false

/-- A place does not change who is to blame. -/
@[simp] theorem isData_atKey (start : String) (e : TypeError) :
    (e.atKey start).isData = e.isData := by cases e <;> rfl

end TypeError

end ValueTypes
