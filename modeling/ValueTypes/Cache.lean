/-
  The cache: types that were resolved before, under the spec texts that were asked for.

  A key that is not cached is built, and stored if building succeeds.  Building may use the cache
  itself and may even fill the very key; then the entry that came first stays and is returned.
  `Cache.invalidate` drops the entries that a registry key takes part in.
-/
import ValueTypes.Ty
import ValueTypes.TypeSpec

namespace ValueTypes

/-- Types under spec texts. -/
abbrev Cache (σ : Type) := Dict (Ty σ)

namespace Cache

variable {σ S : Type}

/-- Stores a type unless the key has an entry, and gives the entry. -/
def store (c : Cache σ) (key : String) (t : Ty σ) : Ty σ × Cache σ :=
  match c.get? key with
  | some old => (old, c)
  | none => (t, c.insert key t)

/-- The entry of a key in the cache of a state, or else what `build` gives, which is stored.
    `view` is the cache of a state and `update` the state with another cache. -/
def fetchOrBuild (view : S → Cache σ) (update : S → Cache σ → S) (key : String)
    (build : S → Except TypeError (Ty σ) × S) (s : S) : Except TypeError (Ty σ) × S :=
  match (view s).get? key with
  | some t => (.ok t, s)
  | none =>
    match build s with
    | (.error e, s') => (.error e, s')
    | (.ok t, s') =>
      let (kept, cache) := (view s').store key t
      (.ok kept, update s' cache)

/-- Whether the entry under `key` depends on the registry key `name`.  A key that is no spec only
    depends on itself. -/
def dependsOn (key name : String) : Bool :=
  match TypeSpec.parse key with
  | .ok spec => spec.mentions name
  | .error _ => key == name

/-- The cache without the entries that depend on `name`. -/
def invalidate (c : Cache σ) (name : String) : Cache σ := c.keep fun key => !dependsOn key name

end Cache

end ValueTypes
