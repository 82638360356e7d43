/-
  How long a cached type stays.

  An entry of the cache goes when an operation drops it, and by nothing else.  What an operation
  drops is its scope (`Action.scope?`): all entries, those that one registry key takes part in, or
  none.  A key takes part in an entry if it is one of the keys of the spec the entry stands under
  (`Cache.Involves`); that the name of a key is part of the text is not enough.

  `Context.Runs` are the runs of operations with all that they dropped, fetches through the cache
  included.  What a fetch builds by may be any function, as long as what it makes of the context is
  again a run; so building may use the cache, drop entries, and fill the very key.  A run that
  stands still within building is a run as well, because a fetch that has not stored yet has changed
  nothing.

  What one operation does is said once, by its scope (`run_does`).  An entry outlives an operation
  whose scope does not cover it (`Does.kept`), a fetch never takes the place of an entry
  (`Cache.get?_store`), and so an entry outlives a run whose scopes do not cover it (`Runs.kept`).
-/
import ValueTypes.Proofs.Run

namespace ValueTypes

variable {σ : Type}

/-! ## Keys that take part -/

/-- The keys of a spec, the innermost last. -/
def TypeSpec.keys : TypeSpec → List String
  | simple key => [key]
  | parametric container member => container :: member.keys

/-- A spec mentions the keys that it is made of. -/
theorem TypeSpec.mentions_iff {spec : TypeSpec} {name : String} :
    spec.mentions name = true ↔ name ∈ spec.keys := by
  induction spec with
  | simple key =>
    rw [mentions, keys, beq_iff_eq, List.mem_singleton]
    exact eq_comm
  | parametric container member ih =>
    rw [mentions, keys, Bool.or_eq_true, beq_iff_eq, ih, List.mem_cons]
    exact or_congr_left eq_comm

/-- What an operation drops from the cache. -/
inductive Scope where
  /-- All entries. -/
  | all
  /-- The entries that a registry key takes part in. -/
  | key (name : String)

namespace Cache

/-- A registry key takes part in the entry under a text: it is one of the keys of the spec, or the
    text itself if that is no spec. -/
inductive Involves (key name : String) : Prop where
  | spec {spec : TypeSpec} (h : TypeSpec.parse key = .ok spec) (hname : name ∈ spec.keys) :
    Involves key name
  | text {e : TypeError} (h : TypeSpec.parse key = .error e) (hname : name = key) :
    Involves key name

/-- A cached key depends on a name when it involves the name. -/
theorem dependsOn_iff {key name : String} : dependsOn key name = true ↔ Involves key name := by
  unfold dependsOn
  cases hparse : TypeSpec.parse key with
  | ok spec =>
    simp only [TypeSpec.mentions_iff]
    constructor
    · intro h
      exact .spec hparse h
    · intro h
      cases h with
      | spec h hname =>
        rw [hparse] at h
        cases h
        exact hname
      | text h _ =>
        rw [hparse] at h
        cases h
  | error e =>
    simp only [beq_iff_eq]
    constructor
    · intro h
      exact .text hparse h.symm
    · intro h
      cases h with
      | spec h _ =>
        rw [hparse] at h
        cases h
      | text _ hname => exact hname.symm

/-- Invalidation drops the entries that the name takes part in. -/
theorem get?_invalidate_of_involves (c : Cache σ) {key name : String} (h : Involves key name) :
    (c.invalidate name).get? key = none := by
  rw [invalidate, Dict.get?_keep, dependsOn_iff.2 h]
  rfl

/-- Invalidation leaves all other entries as they are. -/
theorem get?_invalidate_of_not_involves (c : Cache σ) {key name : String}
    (h : ¬Involves key name) : (c.invalidate name).get? key = c.get? key := by
  have hfree : dependsOn key name = false := by
    rw [← dependsOn_iff, Bool.not_eq_true] at h
    exact h
  rw [invalidate, Dict.get?_keep, hfree]
  rfl

end Cache

/-- Whether the entry under a text is dropped. -/
def Scope.Covers : Scope → String → Prop
  | all, _ => True
  | key name, text => Cache.Involves text name

namespace Context

/-! ## One operation -/

/-- What an action drops when it is run in a context.  A declaration that fails drops nothing. -/
def Action.scope? (ctx : Context σ) : Action σ → Option Scope
  | installBuiltins _ => some .all
  | register key _ => some (.key key)
  | registerLazy key _ => some (.key key)
  | registerClass className _ _ => some (.key (identifier className))
  | registerCodec typeName _ => some (.key (identifier typeName))
  | defineRecord name fields =>
    if (ctx.defineRecord name fields).1.isOk then some (.key (identifier name)) else none
  | clearCache => some .all
  | invalidate name => some (.key name)
  | buildRecord _ _ | defineBuilder _ _ | removeBuilder _ | applyBuilder _ _ _ | resolve _
  | lookup _ | draw _ => none

/-- What an operation of a scope makes of the cache: it lets it grow, and then drops the scope. -/
inductive Does (before after : Context σ) : Option Scope → Prop where
  | keeps (h : ∀ {key : String} {t : Ty σ}, before.cache.get? key = some t →
      after.cache.get? key = some t) : Does before after none
  | empties (h : after.cache = .empty) : Does before after (some .all)
  | drops {mid : Context σ} {name : String} (hgrows : before.Grows mid)
    (h : after.cache = mid.cache.invalidate name) : Does before after (some (.key name))

/-- Defining a record drops what its scope covers, or nothing when it fails. -/
theorem defineRecord_does (ctx : Context σ) (name : String) (fields : List (String × TypeRef σ)) :
    Does ctx (ctx.defineRecord name fields).2 ((Action.defineRecord name fields).scope? ctx) := by
  rw [Action.scope?]
  obtain ⟨mid, hres, ⟨e, h⟩ | ⟨t, h⟩⟩ := defineRecord_cases ctx name fields
  · rw [h]
    exact .keeps hres.grows.cached
  · rw [h]
    exact .drops hres.grows rfl

/-- **One operation**, by its scope. -/
theorem run_does (ctx : Context σ) (a : Action σ) : Does ctx (a.run ctx) (a.scope? ctx) := by
  cases a with
  | installBuiltins ns => exact .empties rfl
  | register key t => exact .drops (.refl ctx) rfl
  | registerLazy key factory => exact .drops (.refl ctx) rfl
  | registerClass className kind op => exact .drops (.refl ctx) rfl
  | registerCodec typeName op => exact .drops (.refl ctx) rfl
  | buildRecord name fields => exact .keeps (buildRecord_resolutions ctx name fields).grows.cached
  | defineRecord name fields => exact defineRecord_does ctx name fields
  | defineBuilder name b => exact .keeps id
  | removeBuilder name => exact .keeps id
  | applyBuilder ref name args =>
    exact .keeps (applyBuilder_resolutions ctx ref name args).grows.cached
  | resolve ref => exact .keeps (resolveRef_resolutions ctx ref).grows.cached
  | lookup key => exact .keeps (lookup_grows rfl).1.cached
  | clearCache => exact .empties rfl
  | invalidate name => exact .drops (.refl ctx) rfl
  | draw count => exact .keeps id

/-- An operation keeps the entries that its scope does not cover. -/
theorem Does.kept {before after : Context σ} {scope : Option Scope} (h : Does before after scope)
    {key : String} {t : Ty σ} (hget : before.cache.get? key = some t)
    (hfree : ∀ s ∈ scope, ¬s.Covers key) : after.cache.get? key = some t := by
  cases h with
  | keeps h => exact h hget
  | empties h => exact absurd trivial (hfree .all rfl)
  | drops hgrows h =>
    rw [h, Cache.get?_invalidate_of_not_involves _ (hfree _ rfl)]
    exact hgrows.cached hget

/-- An operation drops the entries that its scope covers. -/
theorem Does.dropped {before after : Context σ} {scope : Option Scope}
    (h : Does before after scope) {key : String} {s : Scope} (hs : s ∈ scope)
    (hcovers : s.Covers key) : after.cache.get? key = none := by
  cases h with
  | keeps h => cases hs
  | empties h =>
    rw [h]
    rfl
  | drops hgrows h =>
    cases hs
    rw [h]
    exact Cache.get?_invalidate_of_involves _ hcovers

/-- An entry is gone after an operation exactly if the scope covers it. -/
theorem Does.get?_eq_none_iff {before after : Context σ} {scope : Option Scope}
    (h : Does before after scope) {key : String} {t : Ty σ}
    (hget : before.cache.get? key = some t) :
    after.cache.get? key = none ↔ ∃ s, scope = some s ∧ s.Covers key := by
  constructor
  · intro hgone
    by_cases hcovers : ∃ s, scope = some s ∧ s.Covers key
    · exact hcovers
    · have hkept : after.cache.get? key = some t := by
        refine h.kept hget ?_
        intro s hs hs'
        exact hcovers ⟨s, hs, hs'⟩
      rw [hkept] at hgone
      cases hgone
  · rintro ⟨s, hs, hcovers⟩
    exact h.dropped hs hcovers

/-! ## Runs -/

/-- A run of operations, and what they dropped, the first first. -/
inductive Runs : Context σ → List Scope → Context σ → Prop where
  | nil (ctx : Context σ) : Runs ctx [] ctx
  | action {ctx mid : Context σ} {scopes : List Scope} (h : Runs ctx scopes mid) (a : Action σ) :
    Runs ctx (scopes ++ (a.scope? mid).toList) (a.run mid)
  /-- A fetch of a key that is cached builds nothing. -/
  | hit {ctx mid : Context σ} {scopes : List Scope} {key : String} {t : Ty σ}
    (h : Runs ctx scopes mid) (hget : mid.cache.get? key = some t)
    (build : Context σ → Result σ (Ty σ)) : Runs ctx scopes (mid.fetchOrBuild key build).2
  /-- A fetch of any other key runs what it builds by, and stores what that gives. -/
  | miss {ctx mid : Context σ} {scopes inner : List Scope} {key : String}
    (h : Runs ctx scopes mid) (hget : mid.cache.get? key = none)
    (build : Context σ → Result σ (Ty σ)) (hbuild : Runs mid inner (build mid).2) :
    Runs ctx (scopes ++ inner) (mid.fetchOrBuild key build).2

/-- A fetch keeps what building kept, even if building filled the very key. -/
theorem fetchOrBuild_kept {ctx : Context σ} (key : String) {build : Context σ → Result σ (Ty σ)}
    {other : String} {t : Ty σ} (hget : ctx.cache.get? other = some t)
    (hbuild : (build ctx).2.cache.get? other = some t) :
    (ctx.fetchOrBuild key build).2.cache.get? other = some t := by
  unfold fetchOrBuild Cache.fetchOrBuild
  cases ctx.cache.get? key with
  | some u => exact hget
  | none =>
    rcases hb : build ctx with ⟨o, after⟩
    rw [hb] at hbuild
    cases o with
    | error e => exact hbuild
    | ok u => exact after.cache.get?_store key u hbuild

/-- An entry outlives a run that drops nothing that covers it. -/
theorem Runs.kept {ctx after : Context σ} {scopes : List Scope} (h : ctx.Runs scopes after)
    {key : String} {t : Ty σ} (hget : ctx.cache.get? key = some t)
    (hfree : ∀ s ∈ scopes, ¬s.Covers key) : after.cache.get? key = some t := by
  induction h with
  | nil ctx => exact hget
  | action h a ih =>
    rw [List.forall_mem_append] at hfree
    refine (run_does _ a).kept (ih hget hfree.1) ?_
    intro s hs
    exact hfree.2 s (Option.mem_toList.2 hs)
  | hit h hhit build ih =>
    rw [fetchOrBuild_of_get? hhit]
    exact ih hget hfree
  | miss h hmiss build hbuild ih ihbuild =>
    rw [List.forall_mem_append] at hfree
    -- building starts where the run before it ended, and the store at the end replaces nothing
    have hmid := ih hget hfree.1
    exact fetchOrBuild_kept _ hmid (ihbuild hmid hfree.2)

/-- **The lifetime of an entry.**  After any run that drops nothing that covers the key, the entry is
    still the same and is what resolving and fetching the key give; and the next operation drops it
    exactly if its scope covers the key. -/
theorem entry_lives_until_dropped {ctx mid : Context σ} {scopes : List Scope} {key : String}
    {t : Ty σ} (hget : ctx.cache.get? key = some t) (hrun : ctx.Runs scopes mid)
    (hfree : ∀ s ∈ scopes, ¬s.Covers key) :
    mid.cache.get? key = some t ∧ mid.resolve key = (.ok t, mid) ∧
    (∀ build, mid.fetchOrBuild key build = (.ok t, mid)) ∧
    ∀ a : Action σ,
      (a.run mid).cache.get? key = none ↔ ∃ s, a.scope? mid = some s ∧ s.Covers key := by
  have hmid : mid.cache.get? key = some t := hrun.kept hget hfree
  refine ⟨hmid, resolve_of_get? hmid, fetchOrBuild_of_get? hmid, ?_⟩
  intro a
  exact (run_does mid a).get?_eq_none_iff hmid

/-- A binding of `string` and a fetch of a text that is no spec, which fetches the cached key again,
    leave the type of `optional.string` cached; a binding of `optional.string` drops it. -/
theorem entry_lives_until_dropped_at_reentry :
    let t : Ty Empty := (Ty.nominal 0 .string).optional 1
    let ctx : Context Empty :=
      empty.after [.register "optional.string" t, .resolve (.spec "optional.string")]
    let mid : Context Empty := Action.run ctx (.register "string" (.nominal 2 .nil))
    let build : Context Empty → Result Empty (Ty Empty) := fun ctx =>
      ctx.fetchOrBuild "optional.string" fun ctx => (.ok (.nominal 3 .nil), ctx.clearCache)
    let after : Context Empty := (mid.fetchOrBuild "list>" build).2
    ctx.cache.get? "optional.string" = some t ∧ ctx.Runs [.key "string"] after ∧
      after.resolve "optional.string" = (.ok t, after) ∧
      (Action.run after (.register "optional.string" t)).cache.get? "optional.string" = none := by
  intro t ctx mid build after
  have hget : ctx.cache.get? "optional.string" = some t := rfl
  have hfree : ∀ s ∈ [Scope.key "string"], ¬s.Covers "optional.string" := by
    intro s hs
    cases List.mem_singleton.1 hs
    exact mt Cache.dependsOn_iff.2 (by decide)
  have hmid : ctx.Runs [.key "string"] mid :=
    .action (.nil ctx) (.register "string" (.nominal 2 .nil))
  have hinner : mid.Runs [] (build mid).2 := .hit (.nil mid) (hmid.kept hget hfree) _
  have hmiss : mid.cache.get? "list>" = none := by
    show (ctx.cache.invalidate "string").get? "list>" = none
    rw [Cache.get?_invalidate_of_not_involves _ (mt Cache.dependsOn_iff.2 (by decide))]
    rfl
  have hrun : ctx.Runs [.key "string"] after := .miss hmid hmiss build hinner
  obtain ⟨-, hresolve, -, hdrops⟩ := entry_lives_until_dropped hget hrun hfree
  refine ⟨hget, hrun, hresolve, (hdrops _).2 ⟨.key "optional.string", rfl, ?_⟩⟩
  exact Cache.dependsOn_iff.1 (by decide)

end Context

end ValueTypes
