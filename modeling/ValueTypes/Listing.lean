/-
  Listings: values, types, registries and sets of builders written out part by part.

  A text stands in quotes; a list in brackets, an object in braces, with a comma and a blank
  between two entries.
-/
import ValueTypes.Context

namespace ValueTypes.Listing

/-- Entries with a comma and a blank between them. -/
def joined (xs : List String) : String := String.intercalate ", " xs

def bracketed (xs : List String) : String := "[" ++ joined xs ++ "]"

def braced (xs : List String) : String := "\x7b" ++ joined xs ++ "\x7d"

def truth (b : Bool) : String := if b then "true" else "false"

/-- A part that may be absent. -/
def optional : Option String → String
  | some s => "Some(" ++ s ++ ")"
  | none => "None"

mutual

/-- A value under the name of its shape. -/
def value : Value → String
  | .null => "Null"
  | .bool b => "Bool(" ++ truth b ++ ")"
  | .int n => "Number(" ++ Json.compact (.int n) ++ ")"
  | .float x => "Number(" ++ Json.compact (.float x) ++ ")"
  | .str s => "String(" ++ Text.quoted s ++ ")"
  | .arr items => "Array " ++ bracketed (values items)
  | .obj fields => "Object " ++ braced (entries fields)

def values : List Value → List String
  | [] => []
  | v :: vs => value v :: values vs

def entries : List (String × Value) → List String
  | [] => []
  | (k, v) :: fs => (Text.quoted k ++ ": " ++ value v) :: entries fs

end

/-- The parts of a type, given the listing of its member and the name of its schema. -/
def parts {σ : Type} (t : Ty σ) (member schema : Option String) : String :=
  "Type \x7b name: " ++ Text.quoted t.name ++
    ", primitive: " ++ t.kind.label ++
    ", constructors: " ++ String.ofList (Text.digits t.steps.length) ++
    ", member: " ++ optional member ++
    ", schema: " ++ optional (schema.map Text.quoted) ++
    ", optional: " ++ truth t.isOptional ++
    ", fallback: " ++ optional (t.fallback.map value) ++ " \x7d"

/-- A type with its members. -/
def type {σ : Type} : Ty σ → String
  | .plain e k => parts (.plain e k) none none
  | .list e m => parts (.list e m) (some (type m)) none
  | .record e schema fields => parts (.record e schema fields) none (some schema)

def registry {σ : Type} (r : Registry σ) : String :=
  "TypeRegistry \x7b keys: " ++ bracketed (r.keys.map Text.quoted) ++ " \x7d"

def builders {σ : Type} (b : Builders σ) : String :=
  "BuilderRegistry \x7b builders: " ++ bracketed (b.keys.map Text.quoted) ++ " \x7d"

end ValueTypes.Listing
