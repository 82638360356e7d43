/-
  The primitive kinds of values: what a value must look like on the outside.

  Every kind but `any` looks at the constructor of the value alone.  An integer is also of kind
  `float`, which stands for all numbers.
-/
import ValueTypes.Value

namespace ValueTypes

/-- The kinds, in the order in which they are registered. -/
inductive Kind where
  | any | nil | bool | integer | float | string | array | hash
  deriving DecidableEq

namespace Kind

def all : List Kind := [any, nil, bool, integer, float, string, array, hash]

def name : Kind → String
  | any => "any"
  | nil => "nil"
  | bool => "bool"
  | integer => "integer"
  | float => "float"
  | string => "string"
  | array => "array"
  | hash => "hash"

/-- The name of the kind as it stands in listings of types. -/
def label : Kind → String
  | any => "Any"
  | nil => "Nil"
  | bool => "Bool"
  | integer => "Integer"
  | float => "Float"
  | string => "String"
  | array => "Array"
  | hash => "Hash"

def ofName? (s : String) : Option Kind := all.find? fun k => k.name == s

/-- Whether a value is of the kind. -/
def accepts : Kind → Value → Bool
  | any, _ => true
  | nil, .null => true
  | bool, .bool _ => true
  | integer, .int _ => true
  | float, .int _ => true
  | float, .float _ => true
  | string, .str _ => true
  | array, .arr _ => true
  | hash, .obj _ => true
  | _, _ => false

/-- Only lists take a member type. -/
def isCollection : Kind → Bool
  | array => true
  | _ => false

/-- So whatever takes a member type keeps its kind as a list. -/
theorem isCollection_iff {k : Kind} : k.isCollection = true ↔ k = array := by
  cases k <;> decide

/-- What a JSON value says about a kind: its name, or an object whose only key is the name and
    whose value is null. -/
def decode? : Value → Option Kind
  | .str s => ofName? s
  | .obj [(s, .null)] => ofName? s
  | _ => none

end Kind

end ValueTypes
