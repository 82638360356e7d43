/-
  Configuration read from settings.

  Which fields a configuration has, under which names, which of them may be left out and what they
  are then, is said here.  How one setting is read is the matter of a `Decoder`: as a truth value, a
  text, one of some names, a list, or a record of named fields.

  There are two decoders.  For both, a record is a table, or a list that gives its fields in order,
  and entries of other names are passed over.  The strict one takes a truth value for a truth value
  and a text for a text; the lenient one also takes numbers and words for truth values and prints
  numbers as texts.
-/
import ValueTypes.Config
import ValueTypes.Setting

namespace ValueTypes

/-- How settings are read. -/
structure Decoder where
  bool? : Setting → Option Bool
  text? : Setting → Option String
  /-- One of some names. -/
  choice? : List String → Setting → Option String
  items? : Setting → Option (List Setting)
  /-- The fields of a record that has fields of some names, in that order. -/
  fields? : List String → Setting → Option (Entries Setting)

namespace LeafRules

/-! ## Strict rules -/

def strictBool? : Setting → Option Bool
  | .bool b => some b
  | _ => none

def strictText? : Setting → Option String
  | .text s => some s
  | _ => none

/-- A name, alone or as the only key of a table that holds nothing under it. -/
def strictChoice? (names : List String) : Setting → Option String
  | .text s => if s ∈ names then some s else none
  | .table [(s, .missing)] => if s ∈ names then some s else none
  | _ => none

/-! ## Lenient rules -/

/-- The words for truth values, in any case. -/
def boolWord? (s : String) : Option Bool :=
  let word := Text.lowercase s
  if word ∈ ["1", "true", "on", "yes"] then some true
  else if word ∈ ["0", "false", "off", "no"] then some false
  else none

def lenientBool? : Setting → Option Bool
  | .bool b => some b
  | .int n => some (n != 0)
  | .float (.finite x) => some (!x.isZero)
  | .float _ => some true
  | .text s => boolWord? s
  | _ => none

def readingText : Numeral.Reading → String
  | .finite x => String.ofList (Layout.plain.write x)
  | .infinite negative => if negative then "-inf" else "inf"
  | .undefined => "NaN"

def lenientText? : Setting → Option String
  | .text s => some s
  | .bool b => some (if b then "true" else "false")
  | .int n => some (String.ofList (Json.writeInt n))
  | .float x => some (readingText x)
  | _ => none

/-- The first name that is the same in lower case. -/
def sameName? (names : List String) (s : String) : Option String :=
  names.find? fun name => Text.lowercase name = Text.lowercase s

/-- A name in any case, alone or as the only key of a table. -/
def lenientChoice? (names : List String) : Setting → Option String
  | .text s => sameName? names s
  | .table [(s, _)] => sameName? names s
  | _ => none

/-! ## Lists and records -/

def listItems? : Setting → Option (List Setting)
  | .list xs => some xs
  | _ => none

/-- The fields of a record by name: a table, or a list that gives them in the order `names` and, if
    `surplus`, may go on after them. -/
def recordFields? (surplus : Bool) (names : List String) : Setting → Option (Entries Setting)
  | .table es => some es
  | .list xs => if surplus ∨ xs.length ≤ names.length then some (names.zip xs) else none
  | _ => none

end LeafRules

namespace Decoder

open LeafRules in
def strict : Decoder := ⟨strictBool?, strictText?, strictChoice?, listItems?, recordFields? false⟩

open LeafRules in
def lenient : Decoder := ⟨lenientBool?, lenientText?, lenientChoice?, listItems?, recordFields? true⟩

/-! ## Records of settings -/

/-- A field that may be left out. -/
def optional? {α : Type} (es : Entries Setting) (name : String) (default : α)
    (read? : Setting → Option α) : Option α :=
  match es.get? name with
  | none => some default
  | some v => read? v

/-- A field that must be there. -/
def required? {α : Type} (es : Entries Setting) (name : String) (read? : Setting → Option α) :
    Option α :=
  (es.get? name).bind read?

/-- The members of a list, each read alike. -/
def list? {α : Type} (d : Decoder) (read? : Setting → Option α) (v : Setting) : Option (List α) :=
  (d.items? v).bind fun xs => xs.mapM read?

def format? (d : Decoder) (v : Setting) : Option OutputFormat :=
  (d.choice? OutputFormat.names v).bind OutputFormat.ofName?

def registry? (d : Decoder) (v : Setting) : Option RegistrySettings := do
  let es ← d.fields? ["builtins", "optional_namespace", "coercible_namespace"] v
  let builtins ← optional? es "builtins" true d.bool?
  let optionalNamespace ← optional? es "optional_namespace" true d.bool?
  let coercibleNamespace ← optional? es "coercible_namespace" true d.bool?
  some ⟨builtins, optionalNamespace, coercibleNamespace⟩

def output? (d : Decoder) (v : Setting) : Option OutputFormat := do
  let es ← d.fields? ["format"] v
  optional? es "format" .pretty d.format?

def field? (d : Decoder) (v : Setting) : Option FieldDeclaration := do
  let es ← d.fields? ["name", "type"] v
  let name ← required? es "name" d.text?
  let spec ← required? es "type" d.text?
  some ⟨name, spec⟩

def declaration? (d : Decoder) (v : Setting) : Option Declaration := do
  let es ← d.fields? ["name", "fields"] v
  let name ← required? es "name" d.text?
  let fields ← optional? es "fields" [] (d.list? d.field?)
  some ⟨name, fields⟩

end Decoder

/-- The format that a setting names, read strictly. -/
def LeafRules.strictFormat? (v : Setting) : Option OutputFormat := Decoder.strict.format? v

/-- The configuration that settings describe. -/
def Config.decode? (d : Decoder) (v : Setting) : Option Config := do
  let es ← d.fields? ["registry", "output", "structs"] v
  let registry ← Decoder.optional? es "registry" .default d.registry?
  let format ← Decoder.optional? es "output" .pretty d.output?
  let declarations ← Decoder.optional? es "structs" [] (d.list? d.declaration?)
  some ⟨registry, format, declarations⟩

namespace Setting

mutual

/-- A dynamic value as a setting. -/
def ofValue : Value → Setting
  | .null => missing
  | .bool b => bool b
  | .int n => int n
  | .float x => float (.finite x)
  | .str s => text s
  | .arr items => list (ofItems items)
  | .obj fields => table (ofFields fields)

def ofItems : List Value → List Setting
  | [] => []
  | v :: vs => ofValue v :: ofItems vs

def ofFields : List (String × Value) → List (String × Setting)
  | [] => []
  | (k, v) :: fs => (k, ofValue v) :: ofFields fs

end

end Setting

/-- The configuration that a dynamic value describes, read strictly. -/
def Config.ofValue? (v : Value) : Option Config := Config.decode? .strict (Setting.ofValue v)

end ValueTypes
