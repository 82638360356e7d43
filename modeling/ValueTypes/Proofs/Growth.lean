/-
  What resolutions change in a context: it only grows.

  A resolution may run factories, store entries under keys that had none, and draw numbers; it takes
  nothing back and leaves the builders alone.  `Context.Grows` says this of two contexts, for any
  cache, whatever was stored in it.  A resolution is a chain of look-ups and of fetches through the
  cache, and a fetch grows as soon as what it builds by does (`resolve_grows`).

  Every other operation that binds nothing is a chain of resolutions, whether it succeeds or fails
  (`Context.Resolutions` and the lemmas after it), so what resolutions keep, all of them keep.  A
  declaration is such a chain too, until it registers its type (`defineRecord_cases`).
-/
import ValueTypes.Context
import ValueTypes.Proofs.Lookup

namespace ValueTypes

variable {σ : Type}

namespace Cache

/-- The second cache has the entries of the first. -/
def Keeps (c c' : Cache σ) : Prop := ∀ key t, c.get? key = some t → c'.get? key = some t

theorem Keeps.trans {a b c : Cache σ} (hab : a.Keeps b) (hbc : b.Keeps c) : a.Keeps c :=
  fun key t h => hbc key t (hab key t h)

/-- Under a new key nothing is lost. -/
theorem get?_insert_of_get? {c : Cache σ} {key : String} (hnew : c.get? key = none) (t : Ty σ)
    {other : String} {u : Ty σ} (h : c.get? other = some u) :
    (c.insert key t).get? other = some u := by
  have hne : other ≠ key := by
    rintro rfl
    rw [hnew] at h
    cases h
  rw [Dict.get?_insert_of_ne _ _ hne, h]

/-- Storing under a key that has an entry changes nothing, so no entry is lost by storing. -/
theorem get?_store (c : Cache σ) (key : String) (t : Ty σ) {other : String} {u : Ty σ}
    (h : c.get? other = some u) : (c.store key t).2.get? other = some u := by
  unfold store
  cases hkey : c.get? key with
  | some old => exact h
  | none => exact get?_insert_of_get? hkey t h

end Cache

namespace Context

/-- What operations that bind nothing make of a context. -/
structure Grows (before after : Context σ) : Prop where
  registry : before.registry.Advances after.registry
  cached : ∀ {key : String} {t : Ty σ}, before.cache.get? key = some t →
    after.cache.get? key = some t
  builders : after.builders = before.builders
  next : before.next ≤ after.next

theorem Grows.refl (ctx : Context σ) : ctx.Grows ctx :=
  ⟨.refl _, fun h => h, rfl, Nat.le_refl _⟩

theorem Grows.trans {a b c : Context σ} (hab : a.Grows b) (hbc : b.Grows c) : a.Grows c :=
  ⟨hab.registry.trans hbc.registry, fun h => hbc.cached (hab.cached h),
    hbc.builders.trans hab.builders, Nat.le_trans hab.next hbc.next⟩

/-- Drawing numbers grows a context. -/
theorem Grows.draw {a b : Context σ} (h : a.Grows b) {next : Nat} (hnext : b.next ≤ next) :
    a.Grows { b with next := next } :=
  ⟨h.registry, h.cached, h.builders, Nat.le_trans h.next hnext⟩

/-! ## Look-ups and fetches -/

/-- A look-up leaves the cache alone and gives what the registry answers from then on. -/
theorem lookup_grows {ctx after : Context σ} {key : String} {o : Except TypeError (Ty σ)}
    (h : ctx.lookup key = (o, after)) :
    ctx.Grows after ∧ after.cache = ctx.cache ∧ after.registry.Answers key o := by
  rcases hr : ctx.registry.resolve ctx.next key with ⟨o', registry, next⟩
  obtain ⟨hadv, hans, hnext⟩ := Registry.resolve_answers hr
  rw [lookup, hr] at h
  cases h
  exact ⟨⟨hadv, fun h => h, rfl, hnext⟩, rfl, hans⟩

theorem lookup_of_settled? {ctx : Context σ} {key : String} {t : Ty σ}
    (h : ctx.registry.settled? key = some t) : ctx.lookup key = (.ok t, ctx) := by
  rw [lookup, Registry.resolve_of_settled? h]

theorem wrap_grows (ctx : Context σ) (container : String) (m : Ty σ) :
    ctx.Grows (ctx.wrap container m).2 := by
  unfold wrap
  rcases hl : ctx.lookup container with ⟨oc, mid⟩
  have hgrows : ctx.Grows mid := (lookup_grows hl).1
  cases oc with
  | error e => exact hgrows
  | ok u =>
    cases ho : u.withMember mid.next m with
    | error e =>
      simp only [ho]
      exact hgrows
    | ok t =>
      simp only [ho]
      exact hgrows.draw (Nat.le_succ _)

/-- A fetch of a key that is cached gives the entry and builds nothing. -/
theorem fetchOrBuild_of_get? {ctx : Context σ} {key : String} {t : Ty σ}
    (hget : ctx.cache.get? key = some t) (build : Context σ → Result σ (Ty σ)) :
    ctx.fetchOrBuild key build = (.ok t, ctx) := by
  rw [fetchOrBuild, Cache.fetchOrBuild, hget]

/-- A fetch grows a context if what it builds by does, even if that fills the very key. -/
theorem fetchOrBuild_grows {ctx : Context σ} (key : String)
    {build : Context σ → Result σ (Ty σ)} (h : ctx.Grows (build ctx).2) :
    ctx.Grows (ctx.fetchOrBuild key build).2 := by
  unfold fetchOrBuild Cache.fetchOrBuild
  cases ctx.cache.get? key with
  | some t => exact .refl ctx
  | none =>
    rcases hb : build ctx with ⟨o, after⟩
    rw [hb] at h
    cases o with
    | error e => exact h
    | ok t => exact ⟨h.registry, fun hget => after.cache.get?_store key t (h.cached hget),
        h.builders, h.next⟩

/-! ## Operations that bind nothing -/

/-- Resolving level by level only adds to the cache. -/
theorem resolveLevels_grows (leaf : String) : ∀ (levels : List TypeSpec.Level) (ctx : Context σ),
    ctx.Grows (ctx.resolveLevels leaf levels).2 := by
  intro levels
  induction levels with
  | nil =>
    intro ctx
    exact fetchOrBuild_grows leaf (lookup_grows rfl).1
  | cons level levels ih =>
    intro ctx
    rw [resolveLevels]
    have hgrows := ih ctx
    rcases hm : ctx.resolveLevels leaf levels with ⟨om, mid⟩
    rw [hm] at hgrows
    cases om with
    | error e => exact hgrows
    | ok m => exact hgrows.trans (fetchOrBuild_grows level.text (wrap_grows mid _ m))

/-- A text that is cached resolves to its entry. -/
theorem resolve_of_get? {ctx : Context σ} {s : String} {t : Ty σ}
    (hget : ctx.cache.get? s = some t) : ctx.resolve s = (.ok t, ctx) := by
  rw [resolve, hget]

/-- Resolving a text only adds to the cache. -/
theorem resolve_grows (ctx : Context σ) (s : String) : ctx.Grows (ctx.resolve s).2 := by
  unfold resolve
  cases ctx.cache.get? s with
  | some t => exact .refl ctx
  | none =>
    cases TypeSpec.split s with
    | error e => exact .refl ctx
    | ok parts => exact resolveLevels_grows parts.leaf parts.levels ctx

/-- The context after some resolutions, between which numbers may be drawn. -/
inductive Resolutions (before : Context σ) : Context σ → Prop where
  | refl : Resolutions before before
  | resolve {mid : Context σ} (h : Resolutions before mid) (s : String) :
    Resolutions before (mid.resolve s).2
  | draw {mid : Context σ} {next : Nat} (h : Resolutions before mid) (hnext : mid.next ≤ next) :
    Resolutions before { mid with next := next }

theorem Resolutions.trans {a b c : Context σ} (hab : a.Resolutions b) (hbc : b.Resolutions c) :
    a.Resolutions c := by
  induction hbc with
  | refl => exact hab
  | resolve _ s ih => exact ih.resolve s
  | draw _ hnext ih => exact ih.draw hnext

/-- Resolutions only grow a context. -/
theorem Resolutions.grows {a b : Context σ} (h : a.Resolutions b) : a.Grows b := by
  induction h with
  | refl => exact .refl a
  | resolve _ s ih => exact ih.trans (resolve_grows _ s)
  | draw _ hnext ih => exact ih.draw hnext

theorem resolveRef_resolutions (ctx : Context σ) (ref : TypeRef σ) :
    ctx.Resolutions (ctx.resolveRef ref).2 := by
  cases ref with
  | spec text => exact Resolutions.refl.resolve text
  | type t => exact .refl

/-- Fields are resolved by resolutions alone. -/
theorem resolveFields_resolutions : ∀ (fields : List (String × TypeRef σ)) (ctx : Context σ),
    ctx.Resolutions (ctx.resolveFields fields).2 := by
  intro fields
  induction fields with
  | nil =>
    intro ctx
    exact .refl
  | cons field fields ih =>
    intro ctx
    obtain ⟨f, ref⟩ := field
    rw [resolveFields]
    have hmid := resolveRef_resolutions ctx ref
    rcases hr : ctx.resolveRef ref with ⟨o, mid⟩
    rw [hr] at hmid
    cases o with
    | error e => exact hmid
    | ok t =>
      have hrest := ih mid
      rcases hf : mid.resolveFields fields with ⟨o', after⟩
      rw [hf] at hrest
      simp only [hf]
      cases o' with
      | error e => exact hmid.trans hrest
      | ok rest => exact hmid.trans hrest

theorem buildRecord_resolutions (ctx : Context σ) (name : String)
    (fields : List (String × TypeRef σ)) : ctx.Resolutions (ctx.buildRecord name fields).2 := by
  unfold buildRecord
  have hafter := resolveFields_resolutions fields ctx
  rcases hf : ctx.resolveFields fields with ⟨o, after⟩
  rw [hf] at hafter
  cases o with
  | error e => exact hafter
  | ok fields => exact hafter

theorem applyBuilder_resolutions (ctx : Context σ) (ref : TypeRef σ) (name : String)
    (args : List Value) : ctx.Resolutions (ctx.applyBuilder ref name args).2 := by
  unfold applyBuilder
  have hmid := resolveRef_resolutions ctx ref
  rcases hr : ctx.resolveRef ref with ⟨o, mid⟩
  rw [hr] at hmid
  cases o with
  | error e => exact hmid
  | ok t =>
    -- the builder itself only draws numbers
    rcases hb : mid.builders.apply name t args mid.next with e | ⟨t', next⟩
    · simp only [hb]
      exact hmid
    · simp only [hb]
      exact hmid.draw (Nat.le_max_left _ _)

/-! ## Declarations -/

/-- A declaration is a chain of resolutions, and a registration at the end if it succeeds. -/
theorem defineRecord_cases (ctx : Context σ) (name : String) (fields : List (String × TypeRef σ)) :
    ∃ mid, ctx.Resolutions mid ∧
      ((∃ e, ctx.defineRecord name fields = (.error e, mid)) ∨
        ∃ t, ctx.defineRecord name fields
          = (.ok t, { mid.register (identifier name) t with next := mid.next + 1 })) := by
  unfold defineRecord
  have hmid := buildRecord_resolutions ctx name fields
  rcases hb : ctx.buildRecord name fields with ⟨o, mid⟩
  rw [hb] at hmid
  cases o with
  | error e => exact ⟨mid, hmid, .inl ⟨e, rfl⟩⟩
  | ok record => exact ⟨mid, hmid, .inr ⟨_, rfl⟩⟩

end Context

end ValueTypes
