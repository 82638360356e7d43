/-
  Runs: what actions can make of a context, and why its cache never shows.

  An action is one call of an operation on a context, with whatever arguments, and whether it
  succeeds or fails (`Action`).  A run is a list of actions, and a context is reachable if a run
  from the empty context leads to it (`Context.after`).  Each kind of action keeps the cache
  coherent with the registry, for one of three reasons:

  * it is a chain of resolutions (`resolve_coherent`, `Resolutions.coherent`);
  * it binds one key, after the entries that the key takes part in were dropped (`bind_coherent`);
  * it empties the cache (`Cache.coherent_empty`), or touches neither registry nor cache.

  So every reachable context is coherent (`reachable_coherent`), and in it a resolution and the
  evaluation without a cache give outcomes that one registry denotes
  (`resolve_agrees_with_evaluate`).
-/
import ValueTypes.Proofs.Resolution

namespace ValueTypes

variable {σ : Type}

/-- A binding of one key is not seen under another. -/
theorem Registry.settled?_bind_of_ne (r : Registry σ) {key other : String} (b : Binding σ)
    (hne : other ≠ key) : (r.bind key b).settled? other = r.settled? other := by
  rw [settled?, settled?, bind, Dict.get?_insert_of_ne _ _ hne]

namespace Context

/-! ## Operations that bind nothing -/

theorem lookup_coherent {ctx : Context σ} (hcoh : ctx.Coherent) (key : String) :
    (ctx.lookup key).2.Coherent := by
  rcases hl : ctx.lookup key with ⟨o, after⟩
  obtain ⟨hgrows, hcache, -⟩ := lookup_grows hl
  show after.cache.Coherent after.registry
  rw [hcache]
  exact hcoh.advance hgrows.registry

/-- Resolving a text keeps a context coherent. -/
theorem resolve_coherent {ctx : Context σ} (hcoh : ctx.Coherent) (s : String) :
    (ctx.resolve s).2.Coherent := by
  rcases resolve_resolved hcoh s with ⟨e, -, hrefused⟩ | ⟨spec, -, hres⟩
  · rw [hrefused]
    exact hcoh
  · exact hres.coherent

theorem Resolutions.coherent {a b : Context σ} (h : a.Resolutions b) (hcoh : a.Coherent) :
    b.Coherent := by
  induction h with
  | refl => exact hcoh
  | resolve _ s ih => exact resolve_coherent ih s
  -- neither the registry nor the cache looks at the supply of numbers
  | draw _ _ ih => exact ih

/-! ## Operations that bind or drop -/

/-- Binding a key, with the cache invalidated at it, keeps a context coherent. -/
theorem bind_coherent {ctx : Context σ} (hcoh : ctx.Coherent) (key : String) (b : Binding σ) :
    (ctx.bind key b).Coherent := by
  show (ctx.cache.invalidate key).Coherent (ctx.registry.bind key b)
  refine hcoh.invalidate ?_
  intro other hne
  exact ctx.registry.settled?_bind_of_ne b hne

theorem invalidate_coherent {ctx : Context σ} (hcoh : ctx.Coherent) (name : String) :
    (ctx.invalidate name).Coherent := hcoh.invalidate fun _ _ => rfl

/-- Defining a record keeps a context coherent, whether it succeeds or not. -/
theorem defineRecord_coherent {ctx : Context σ} (hcoh : ctx.Coherent) (name : String)
    (fields : List (String × TypeRef σ)) : (ctx.defineRecord name fields).2.Coherent := by
  obtain ⟨mid, hres, ⟨e, h⟩ | ⟨t, h⟩⟩ := defineRecord_cases ctx name fields
  · rw [h]
    exact hres.coherent hcoh
  · rw [h]
    exact bind_coherent (hres.coherent hcoh) _ _

/-! ## Runs -/

/-- One call of an operation on a context. -/
inductive Action (σ : Type) where
  | installBuiltins (ns : Builtins.Namespaces)
  | register (key : String) (t : Ty σ)
  | registerLazy (key : String) (factory : Factory σ)
  | registerClass (className : String) (kind : Kind) (op : σ)
  | registerCodec (typeName : String) (op : σ)
  | buildRecord (name : String) (fields : List (String × TypeRef σ))
  | defineRecord (name : String) (fields : List (String × TypeRef σ))
  | defineBuilder (name : String) (b : Builder σ)
  | removeBuilder (name : String)
  | applyBuilder (ref : TypeRef σ) (name : String) (args : List Value)
  | resolve (ref : TypeRef σ)
  /-- A look-up in the registry, past the cache. -/
  | lookup (key : String)
  | clearCache
  | invalidate (name : String)
  /-- Types are made outside the context, with numbers from its supply. -/
  | draw (count : Nat)

/-- The context after an action. -/
def Action.run (ctx : Context σ) : Action σ → Context σ
  | installBuiltins ns => ctx.installBuiltins ns
  | register key t => ctx.register key t
  | registerLazy key factory => ctx.registerLazy key factory
  | registerClass className kind op => (ctx.registerClass className kind op).2
  | registerCodec typeName op => (ctx.registerCodec typeName op).2
  | buildRecord name fields => (ctx.buildRecord name fields).2
  | defineRecord name fields => (ctx.defineRecord name fields).2
  | defineBuilder name b => ctx.defineBuilder name b
  | removeBuilder name => ctx.removeBuilder name
  | applyBuilder ref name args => (ctx.applyBuilder ref name args).2
  | resolve ref => (ctx.resolveRef ref).2
  | lookup key => (ctx.lookup key).2
  | clearCache => ctx.clearCache
  | invalidate name => ctx.invalidate name
  | draw count => { ctx with next := ctx.next + count }

/-- The context after a run. -/
def after (ctx : Context σ) (actions : List (Action σ)) : Context σ :=
  actions.foldl Action.run ctx

/-- One action keeps the cache coherent. -/
theorem run_coherent {ctx : Context σ} (hcoh : ctx.Coherent) (a : Action σ) :
    (a.run ctx).Coherent := by
  cases a with
  | installBuiltins ns => exact Cache.coherent_empty _
  | register key t => exact bind_coherent hcoh key _
  | registerLazy key factory => exact bind_coherent hcoh key _
  | registerClass className kind op => exact bind_coherent hcoh _ _
  | registerCodec typeName op => exact bind_coherent hcoh _ _
  | buildRecord name fields => exact (buildRecord_resolutions ctx name fields).coherent hcoh
  | defineRecord name fields => exact defineRecord_coherent hcoh name fields
  | defineBuilder name b => exact hcoh
  | removeBuilder name => exact hcoh
  | applyBuilder ref name args => exact (applyBuilder_resolutions ctx ref name args).coherent hcoh
  | resolve ref => exact (resolveRef_resolutions ctx ref).coherent hcoh
  | lookup key => exact lookup_coherent hcoh key
  | clearCache => exact Cache.coherent_empty _
  | invalidate name => exact invalidate_coherent hcoh name
  | draw count => exact hcoh

/-- A run keeps the cache coherent. -/
theorem after_coherent (actions : List (Action σ)) : ∀ {ctx : Context σ}, ctx.Coherent →
    (ctx.after actions).Coherent := by
  induction actions with
  | nil =>
    intro ctx hcoh
    exact hcoh
  | cons a actions ih =>
    intro ctx hcoh
    exact ih (run_coherent hcoh a)

/-- Every reachable context is coherent. -/
theorem reachable_coherent (actions : List (Action σ)) : (empty.after actions).Coherent :=
  after_coherent actions (Cache.coherent_empty _)

/-! ## Resolution and evaluation -/

theorem evaluate_coherent {ctx : Context σ} (hcoh : ctx.Coherent) (s : String) :
    (ctx.evaluate s).2.Coherent := by
  rw [Coherent, evaluate_cache]
  exact hcoh.advance (evaluate_advances ctx s)

/-- A resolution in a coherent context and an evaluation agree if the registries that they end with
    agree on every key. -/
theorem agree_of_registries_agree [DecidableEq σ] {a b : Context σ} (ha : a.Coherent) (s : String)
    (hkeys : ∀ {key o o'}, (a.resolve s).2.registry.Answers key o →
      (b.evaluate s).2.registry.Answers key o' → Ty.Agree o o') :
    Ty.Agree (a.resolve s).1 (b.evaluate s).1 := by
  rcases resolve_resolved ha s with ⟨e, hp, hr⟩ | ⟨spec, hp, hr⟩
  · rw [hr, evaluate_of_malformed b hp]
    exact .refl _
  · exact hr.denotes.agree (fun _ _ _ _ => hkeys) (evaluate_denotes b hp)

/-- **Resolving through the cache is evaluating without it**, in every reachable context and for
    every text: both fail with one error, or both give types that are the same.  It does not matter
    which of the two goes first.  They also agree when both start from the context as it is, unless
    a factory that has not run yet makes different types when it is run from different numbers. -/
theorem resolve_agrees_with_evaluate [DecidableEq σ] (actions : List (Action σ)) (s : String) :
    let ctx := empty.after actions
    Ty.Agree (ctx.resolve s).1 ((ctx.resolve s).2.evaluate s).1 ∧
    Ty.Agree ((ctx.evaluate s).2.resolve s).1 (ctx.evaluate s).1 ∧
    (ctx.registry.Uniform → Ty.Agree (ctx.resolve s).1 (ctx.evaluate s).1) := by
  intro ctx
  have hcoh : ctx.Coherent := reachable_coherent actions
  refine ⟨?_, ?_, ?_⟩
  · refine agree_of_registries_agree hcoh s ?_
    intro key o o' h h'
    -- the evaluation goes on from the registry that the resolution leaves
    rw [(h.advance (evaluate_advances _ s)).unique h']
    exact .refl _
  · refine agree_of_registries_agree (evaluate_coherent hcoh s) s ?_
    intro key o o' h h'
    -- and here the resolution from the one that the evaluation leaves
    rw [h.unique (h'.advance (resolve_grows _ s).registry)]
    exact .refl _
  · intro hunif
    refine agree_of_registries_agree hcoh s ?_
    intro key o o' h h'
    exact h.agree hunif (resolve_grows ctx s).registry (evaluate_advances ctx s) h'

/-- The case of one type and one factory that has not run yet. -/
theorem resolve_agrees_with_evaluate_at_lazy_member :
    let actions : List (Action Empty) := [.register "array" (.nominal 0 .array), .draw 1,
      .registerLazy "text" fun n => (.nominal n .string, n + 1)]
    (empty.after actions).registry.Uniform ∧
      Ty.Agree ((empty.after actions).resolve "array<text>").1
        ((empty.after actions).evaluate "array<text>").1 := by
  intro actions
  have hunif : (empty.after actions).registry.Uniform := by
    intro key factory ticket hk m n
    change ((Dict.empty.insert "array" _).insert "text" _).get? key = _ at hk
    rw [Dict.get?_insert, Dict.get?_insert, Dict.get?_empty] at hk
    split at hk
    · cases hk
      rfl
    · split at hk <;> cases hk
  obtain ⟨-, -, h⟩ := resolve_agrees_with_evaluate actions "array<text>"
  exact ⟨hunif, h hunif⟩

end Context

end ValueTypes
