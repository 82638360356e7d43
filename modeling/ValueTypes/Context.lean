/-
  Contexts: a registry, a cache of resolved specs and a set of builders, and the supply of serial
  numbers from which new types are numbered.

  `Context.resolve` looks a spec up in the cache; on a miss it resolves the innermost key and then
  one container after another, and caches every level under its own text.  A registration first
  drops the cached types that its key takes part in, so a cached type never outlives a part of it.

  An operation that can fail gives its result beside the context after it, because what it looked
  up on the way stays cached.
-/
import ValueTypes.Builtins
import ValueTypes.Builders
import ValueTypes.Cache

namespace ValueTypes

/-- A spec to be resolved, or a type that is at hand. -/
inductive TypeRef (σ : Type) where
  | spec (text : String)
  | type (t : Ty σ)

/-- The text of a reference. -/
def TypeRef.display {σ : Type} : TypeRef σ → String
  | spec text => text
  | type t => t.name

/-- One independent universe of types. -/
structure Context (σ : Type) where
  registry : Registry σ
  cache : Cache σ
  builders : Builders σ
  /-- The next serial number. -/
  next : Nat

namespace Context

variable {σ : Type}

/-- The result of an operation that can fail, and the context after it. -/
abbrev Result (σ α : Type) := Except TypeError α × Context σ

def empty : Context σ := ⟨.empty, .empty, .empty, 0⟩

/-- The context with the built-in types of the selected namespaces and nothing cached. -/
def installBuiltins (ctx : Context σ) (ns : Builtins.Namespaces) : Context σ :=
  let (registry, next) := Builtins.install ns ctx.registry ctx.next
  { ctx with registry := registry, next := next, cache := .empty }

def withBuiltins : Context σ := empty.installBuiltins .all

/-! ## The cache -/

def withCache (ctx : Context σ) (c : Cache σ) : Context σ := { ctx with cache := c }

def clearCache (ctx : Context σ) : Context σ := ctx.withCache .empty

def invalidate (ctx : Context σ) (name : String) : Context σ :=
  ctx.withCache (ctx.cache.invalidate name)

/-- The cached type of a key, or else the one that `build` gives. -/
def fetchOrBuild (ctx : Context σ) (key : String)
    (build : Context σ → Result σ (Ty σ)) : Result σ (Ty σ) :=
  Cache.fetchOrBuild Context.cache withCache key build ctx

/-! ## Registration -/

/-- Binds a key, and drops what was cached of it. -/
def bind (ctx : Context σ) (key : String) (b : Binding σ) : Context σ :=
  let ctx := ctx.invalidate key
  { ctx with registry := ctx.registry.bind key b }

def register (ctx : Context σ) (key : String) (t : Ty σ) : Context σ := ctx.bind key (.type t)

/-- Binds a factory; the next serial number is the ticket of the registration. -/
def registerLazy (ctx : Context σ) (key : String) (factory : Factory σ) : Context σ :=
  let ctx := ctx.bind key (.lazy factory ctx.next none)
  { ctx with next := ctx.next + 1 }

/-- Registers a type of a kind with one step under the key of a class, and gives the key. -/
def registerStep (ctx : Context σ) (className : String) (kind : Kind)
    (op : String → Op σ) : String × Context σ :=
  let key := identifier className
  let t := (Ty.new ctx.next key kind).withStep (ctx.next + 1) ⟨ctx.next, op key⟩
  let ctx := ctx.register key t
  (key, { ctx with next := ctx.next + 2 })

/-- Registers a class whose constructor is a step of its own. -/
def registerClass (ctx : Context σ) (className : String) (kind : Kind) (op : σ) :
    String × Context σ :=
  ctx.registerStep className kind fun _ => .custom op

/-- Registers a type that takes what a codec decodes, in the form in which the codec encodes it. -/
def registerCodec (ctx : Context σ) (typeName : String) (op : σ) : String × Context σ :=
  ctx.registerStep typeName .any fun key => .codec key op

/-! ## Resolution -/

/-- The registered type under a key. -/
def lookup (ctx : Context σ) (key : String) : Result σ (Ty σ) :=
  let (r, registry, next) := ctx.registry.resolve ctx.next key
  (r, { ctx with registry := registry, next := next })

/-- The container under a key with members of a type. -/
def wrap (ctx : Context σ) (container : String) (member : Ty σ) : Result σ (Ty σ) :=
  match ctx.lookup container with
  | (.error e, ctx) => (.error e, ctx)
  | (.ok t, ctx) =>
    match t.withMember ctx.next member with
    | .error e => (.error e, ctx)
    | .ok t => (.ok t, { ctx with next := ctx.next + 1 })

/-- The type of a spec taken apart, from the innermost key outwards. -/
def resolveLevels (ctx : Context σ) (leaf : String) : List TypeSpec.Level → Result σ (Ty σ)
  | [] => ctx.fetchOrBuild leaf fun ctx => ctx.lookup leaf
  | level :: levels =>
    match ctx.resolveLevels leaf levels with
    | (.error e, ctx) => (.error e, ctx)
    | (.ok member, ctx) => ctx.fetchOrBuild level.text fun ctx => ctx.wrap level.container member

/-- The type of a spec. -/
def resolve (ctx : Context σ) (spec : String) : Result σ (Ty σ) :=
  match ctx.cache.get? spec with
  | some t => (.ok t, ctx)
  | none =>
    match TypeSpec.split spec with
    | .error e => (.error e, ctx)
    | .ok parts => ctx.resolveLevels parts.leaf parts.levels

/-- The type of a reference; a type stands for itself. -/
def resolveRef (ctx : Context σ) : TypeRef σ → Result σ (Ty σ)
  | .spec text => ctx.resolve text
  | .type t => (.ok t, ctx)

/-! ## Records -/

/-- The fields with their references resolved, in order. -/
def resolveFields (ctx : Context σ) :
    List (String × TypeRef σ) → Result σ (List (String × Ty σ))
  | [] => (.ok [], ctx)
  | (f, ref) :: fields =>
    match ctx.resolveRef ref with
    | (.error e, ctx) => (.error e, ctx)
    | (.ok t, ctx) =>
      match ctx.resolveFields fields with
      | (.error e, ctx) => (.error e, ctx)
      | (.ok rest, ctx) => (.ok ((f, t) :: rest), ctx)

/-- The record of a declaration, which is not registered. -/
def buildRecord (ctx : Context σ) (name : String) (fields : List (String × TypeRef σ)) :
    Result σ (Record σ) :=
  match ctx.resolveFields fields with
  | (.error e, ctx) => (.error e, ctx)
  | (.ok fields, ctx) => (Record.ofFields name fields, ctx)

/-- Declares a record and registers its type under the key of its name. -/
def defineRecord (ctx : Context σ) (name : String) (fields : List (String × TypeRef σ)) :
    Result σ (Ty σ) :=
  match ctx.buildRecord name fields with
  | (.error e, ctx) => (.error e, ctx)
  | (.ok record, ctx) =>
    let t := record.toTy ctx.next
    (.ok t, { ctx.register (identifier name) t with next := ctx.next + 1 })

/-! ## Builders -/

def defineBuilder (ctx : Context σ) (name : String) (b : Builder σ) : Context σ :=
  { ctx with builders := ctx.builders.insert name b }

def removeBuilder (ctx : Context σ) (name : String) : Context σ :=
  { ctx with builders := ctx.builders.erase name }

/-- The named builder applied to the type of a reference. -/
def applyBuilder (ctx : Context σ) (ref : TypeRef σ) (name : String) (args : List Value) :
    Result σ (Ty σ) :=
  match ctx.resolveRef ref with
  | (.error e, ctx) => (.error e, ctx)
  | (.ok t, ctx) =>
    match ctx.builders.apply name t args ctx.next with
    | .error e => (.error e, ctx)
    | .ok (t, after) => (.ok t, { ctx with next := max ctx.next after })

end Context

end ValueTypes
