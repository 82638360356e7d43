/-
  Declaring a record is all or nothing.

  The fields of a declaration are resolved one after another, and each resolution may run factories
  and fill the cache before a later field fails, or before a name turns out to be declared twice.
  None of this shows afterwards.  Two contexts resolve a text alike (`Context.ResolvesAs`) if the
  later one has the entry of the earlier, in case there is one, and if the keys that the text
  mentions are bound as before, but for factories that have run (`resolvesAs_of_advancesAt`).

  * A declaration that fails is a chain of resolutions, and these leave every key bound as before:
    every text is resolved alike.
  * A declaration that succeeds binds one key besides: every text that does not mention the key is
    resolved alike.

  A factory may make another type when it runs later, which is why outcomes are compared in two
  ways.  Both are outcomes that the bindings from before allow (`Registry.Allows`); and they agree
  if no factory that is left for the text depends on when it is run (`Registry.UniformAt`).
-/
import Mathlib.Data.List.Sort
import ValueTypes.Proofs.Declaration

namespace ValueTypes

variable {σ : Type}

/-- Maps that have the same keys list them alike. -/
theorem Dict.keys_eq_of_mem_iff {α : Type} {d e : Dict α} (h : ∀ key, key ∈ d.keys ↔ key ∈ e.keys) :
    d.keys = e.keys := by
  have sorted : ∀ d : Dict α, d.keys.Pairwise (· < ·) := fun d => List.pairwise_map.2 d.sorted
  exact (sorted d).eq_of_mem_iff (sorted e) h

/-- The text is a spec, and the key is one of its keys. -/
def TypeSpec.MentionedIn (key s : String) : Prop :=
  ∃ spec, parse s = .ok spec ∧ spec.mentions key = true

namespace Registry

/-- Look-ups leave the keys of a registry as they are. -/
theorem Advances.keys_eq {r r' : Registry σ} (h : r.Advances r') : r'.keys = r.keys := by
  refine Dict.keys_eq_of_mem_iff ?_
  intro key
  rw [Dict.mem_keys_iff, Dict.mem_keys_iff, h.isSome]

/-- An outcome that the bindings of the keys of a spec allow: they give it after some look-ups. -/
def Allows (r : Registry σ) (spec : TypeSpec) (o : Except TypeError (Ty σ)) : Prop :=
  ∃ r', (∀ key, spec.mentions key = true → r.AdvancesAt r' key) ∧ r'.Denotes spec o

/-- What is allowed after some look-ups was allowed before. -/
theorem Allows.of_advancesAt {r r' : Registry σ} {spec : TypeSpec} {o : Except TypeError (Ty σ)}
    (hadv : ∀ key, spec.mentions key = true → r.AdvancesAt r' key) (h : r'.Allows spec o) :
    r.Allows spec o := by
  obtain ⟨r'', hadv', hden⟩ := h
  exact ⟨r'', fun key hkey => (hadv key hkey).trans (hadv' key hkey), hden⟩

/-- The outcomes that are allowed agree, if no factory depends on when it is run. -/
theorem Allows.agree [DecidableEq σ] {r : Registry σ} {spec : TypeSpec}
    (hunif : ∀ key, spec.mentions key = true → r.UniformAt key) {o o' : Except TypeError (Ty σ)}
    (h : r.Allows spec o) (h' : r.Allows spec o') : Ty.Agree o o' := by
  obtain ⟨a, ha, hden⟩ := h
  obtain ⟨b, hb, hden'⟩ := h'
  refine hden.agree ?_ hden'
  intro key hkey _ _ hans hans'
  exact hans.agree_of_uniformAt (hunif key hkey) (ha key hkey) (hb key hkey) hans'

/-- Binding a key leaves the others as they are. -/
theorem AdvancesAt.bind {r r' : Registry σ} {key other : String} (h : r.AdvancesAt r' other)
    (hne : other ≠ key) (b : Binding σ) : r.AdvancesAt (r'.bind key b) other := by
  rw [AdvancesAt, Registry.bind, Dict.get?_insert_of_ne _ _ hne]
  exact h

end Registry

namespace Context

/-! ## Resolving alike -/

/-- The later context resolves a text as the earlier one does: to the same instance, if it was
    cached, and otherwise to an outcome that was possible before. -/
structure ResolvesAs [DecidableEq σ] (before after : Context σ) (s : String) : Prop where
  cached : ∀ t, before.cache.get? s = some t →
    before.resolve s = (.ok t, before) ∧ after.resolve s = (.ok t, after)
  allowed : ∀ spec, TypeSpec.parse s = .ok spec →
    before.registry.Allows spec (before.resolve s).1 ∧
      before.registry.Allows spec (after.resolve s).1
  agrees : (∀ key, TypeSpec.MentionedIn key s → before.registry.UniformAt key) →
    Ty.Agree (before.resolve s).1 (after.resolve s).1

/-- What a context resolves a spec to is allowed by its bindings. -/
theorem resolve_allowed {ctx : Context σ} (hcoh : ctx.Coherent) {s : String} {spec : TypeSpec}
    (h : TypeSpec.parse s = .ok spec) : ctx.registry.Allows spec (ctx.resolve s).1 :=
  ⟨_, fun key _ => (resolve_grows ctx s).registry key, resolve_denotes hcoh h⟩

/-- A text resolves after as before if the keys that it mentions were only looked up and what was
    cached of it is still there. -/
theorem resolvesAs_of_advancesAt [DecidableEq σ] {before after : Context σ}
    (hbefore : before.Coherent) (hafter : after.Coherent) {s : String}
    (hcached : ∀ t, before.cache.get? s = some t → after.cache.get? s = some t)
    (hadv : ∀ key, TypeSpec.MentionedIn key s → before.registry.AdvancesAt after.registry key) :
    before.ResolvesAs after s := by
  have hallowed : ∀ spec, TypeSpec.parse s = .ok spec →
      before.registry.Allows spec (before.resolve s).1 ∧
        before.registry.Allows spec (after.resolve s).1 := by
    intro spec hparse
    refine ⟨resolve_allowed hbefore hparse, ?_⟩
    exact (resolve_allowed hafter hparse).of_advancesAt fun key hkey => hadv key ⟨spec, hparse, hkey⟩
  refine ⟨?_, hallowed, ?_⟩
  · intro t hget
    exact ⟨resolve_of_get? hget, resolve_of_get? (hcached t hget)⟩
  · intro hunif
    cases hparse : TypeSpec.parse s with
    | error e =>
      rw [resolve_of_malformed hbefore hparse, resolve_of_malformed hafter hparse]
      exact .refl _
    | ok spec =>
      obtain ⟨h, h'⟩ := hallowed spec hparse
      exact h.agree (fun key hkey => hunif key ⟨spec, hparse, hkey⟩) h'

/-! ## Declarations -/

/-- A declaration that fails is a chain of resolutions. -/
theorem defineRecord_eq_error {ctx after : Context σ} {name : String}
    {fields : List (String × TypeRef σ)} {e : TypeError}
    (h : ctx.defineRecord name fields = (.error e, after)) : ctx.Resolutions after := by
  obtain ⟨mid, hres, ⟨e', h'⟩ | ⟨t, h'⟩⟩ := defineRecord_cases ctx name fields
  · rw [h'] at h
    cases h
    exact hres
  · rw [h'] at h
    cases h

/-- An entry that the key takes no part in outlives the registration of the key. -/
theorem register_kept {ctx : Context σ} (hcoh : ctx.Coherent) {key s : String}
    (hfree : ¬TypeSpec.MentionedIn key s) (t : Ty σ) {u : Ty σ}
    (hget : ctx.cache.get? s = some u) : (ctx.register key t).cache.get? s = some u := by
  obtain ⟨spec, hwf, rfl, -⟩ := hcoh s u hget
  have hm : spec.mentions key ≠ true := fun hm =>
    hfree ⟨spec, TypeSpec.parse_eq_ok_iff.2 ⟨hwf, rfl⟩, hm⟩
  show (ctx.cache.invalidate key).get? spec.render = some u
  rw [Cache.get?_invalidate_render _ hwf, if_neg hm, hget]

/-- **Declaring a record is all or nothing**, in every reachable context.  If it fails, the keys,
    what they are bound to, the builders and the cached entries are as before, and every text is
    resolved as before; only factories may have run.  If it succeeds, the key of the name is bound
    to the type and no other key has changed, and every text that does not mention the key is
    resolved as before. -/
theorem defineRecord_all_or_nothing [DecidableEq σ] (actions : List (Action σ)) (name : String)
    (fields : List (String × TypeRef σ)) :
    let ctx : Context σ := empty.after actions
    let after := (ctx.defineRecord name fields).2
    (∀ e, (ctx.defineRecord name fields).1 = .error e →
      after.registry.keys = ctx.registry.keys ∧ ctx.registry.Advances after.registry ∧
      after.builders = ctx.builders ∧
      ctx.cache.Keeps after.cache ∧ ∀ s, ctx.ResolvesAs after s) ∧
    ∀ t, (ctx.defineRecord name fields).1 = .ok t →
      after.registry.bindings.get? (identifier name) = some (.type t) ∧
      (∀ key, key ≠ identifier name → ctx.registry.AdvancesAt after.registry key) ∧
      after.builders = ctx.builders ∧
      ∀ s, ¬TypeSpec.MentionedIn (identifier name) s → ctx.ResolvesAs after s := by
  intro ctx after
  have hcoh : ctx.Coherent := reachable_coherent actions
  have hcoh' : after.Coherent := defineRecord_coherent hcoh name fields
  refine ⟨?_, ?_⟩
  · intro e he
    have hgrows : ctx.Grows after := (defineRecord_eq_error (Prod.ext he rfl)).grows
    refine ⟨hgrows.registry.keys_eq, hgrows.registry, hgrows.builders,
      fun _ _ => hgrows.cached, ?_⟩
    intro s
    exact resolvesAs_of_advancesAt hcoh hcoh' (fun _ => hgrows.cached)
      fun key _ => hgrows.registry key
  · intro t ht
    have hok : ctx.defineRecord name fields = (.ok t, after) := Prod.ext ht rfl
    obtain ⟨mid, hres, hafter⟩ := defineRecord_eq_ok hok
    have hgrows : ctx.Grows mid := hres.grows
    have hothers : ∀ key, key ≠ identifier name → ctx.registry.AdvancesAt after.registry key := by
      intro key hne
      rw [hafter]
      exact Registry.AdvancesAt.bind (hgrows.registry key) hne (.type t)
    refine ⟨?_, hothers, ?_, ?_⟩
    · rw [hafter]
      exact register_bound mid (identifier name) t
    · rw [hafter]
      exact hgrows.builders
    · intro s hfree
      refine resolvesAs_of_advancesAt hcoh hcoh' ?_ ?_
      · intro u hget
        rw [hafter]
        exact register_kept (hres.coherent hcoh) hfree t (hgrows.cached hget)
      · intro key hkey
        refine hothers key ?_
        rintro rfl
        exact hfree hkey

/-- A declaration that runs a factory and fills the cache before it fails, because its field is
    declared twice; and the one that succeeds after the field is named only once. -/
theorem defineRecord_all_or_nothing_at_lazy_field :
    let actions : List (Action Empty) := [.register "array" (.nominal 0 .array), .draw 1,
      .registerLazy "text" fun n => (.nominal n .string, n + 1)]
    let body : String × TypeRef Empty := ("body", .spec "array<text>")
    let ctx : Context Empty := empty.after actions
    let failed := (ctx.defineRecord "Doc" [body, body]).2
    let declared := (ctx.defineRecord "Doc" [body]).2
    failed.cache.keys = ["array<text>", "text"] ∧ failed.registry.keys = ctx.registry.keys ∧
      Ty.Agree (ctx.resolve "array<text>").1 (failed.resolve "array<text>").1 ∧
      (∃ t, declared.registry.bindings.get? "doc" = some (.type t)) ∧
      Ty.Agree (ctx.resolve "array<text>").1 (declared.resolve "array<text>").1 := by
  intro actions body ctx failed declared
  have hunif : ∀ key, TypeSpec.MentionedIn key "array<text>" → ctx.registry.UniformAt key := by
    intro key _ factory ticket hk m n
    change ((Dict.empty.insert "array" _).insert "text" _).get? key = _ at hk
    rw [Dict.get?_insert, Dict.get?_insert, Dict.get?_empty] at hk
    split at hk
    · cases hk
      rfl
    · split at hk <;> cases hk
  have hkey : identifier "Doc" = "doc" := by decide +kernel
  have hfree : ¬TypeSpec.MentionedIn (identifier "Doc") "array<text>" := by
    rintro ⟨spec, hparse, hm⟩
    have hspec : TypeSpec.parse "array<text>" = .ok (.parametric "array" (.simple "text")) := rfl
    rw [hspec] at hparse
    cases hparse
    rw [hkey] at hm
    exact absurd hm (by decide)
  obtain ⟨herror, -⟩ := defineRecord_all_or_nothing actions "Doc" [body, body]
  obtain ⟨hkeys, -, -, -, halike⟩ := herror _ rfl
  obtain ⟨-, hok⟩ := defineRecord_all_or_nothing actions "Doc" [body]
  obtain ⟨hbound, -, -, halike'⟩ := hok _ rfl
  rw [hkey] at hbound
  exact ⟨rfl, hkeys, (halike "array<text>").agrees hunif, ⟨_, hbound⟩, (halike' _ hfree).agrees hunif⟩

end Context

end ValueTypes
