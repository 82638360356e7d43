/-
  Resolution through the cache.

  The cache is coherent with the registry (`Cache.Coherent`) if every entry stands under the text of
  a well-formed spec and is made of what is there now: the type bound to the key, for a key; for a
  composite, the bound container with the type cached under the text of its members attached to it.
  The condition speaks of one level only, and of the very type that is cached for the members, so it
  says at once that no entry is stale and that every sub-spec of a cached spec is cached.

  * Dropping the entries that a key takes part in keeps the rest coherent, even if the key is bound
    anew (`Coherent.invalidate`): a spec that does not mention the key has no sub-spec that does.
  * Resolving keeps a coherent cache coherent, keeps its entries, caches the spec if it succeeds,
    and gives an outcome that the registry denotes (`resolve_resolved`).

  The loop of `Context.resolveLevels` is an induction on the tree whose levels it runs over.
-/
import ValueTypes.Proofs.SpecText
import ValueTypes.Proofs.Evaluation
import ValueTypes.Proofs.Growth

namespace ValueTypes

variable {σ : Type}

/-! ## Coherent caches -/

namespace Cache

/-- The type is what the registry and the cache make of the spec, one level deep. -/
def Supports (c : Cache σ) (r : Registry σ) : TypeSpec → Ty σ → Prop
  | .simple key, t => r.settled? key = some t
  | .parametric container member, t =>
    ∃ u m serial, r.settled? container = some u ∧ c.get? member.render = some m ∧
      u.withMember serial m = .ok t

/-- Every entry stands under the text of a well-formed spec and is supported. -/
def Coherent (c : Cache σ) (r : Registry σ) : Prop :=
  ∀ key t, c.get? key = some t →
    ∃ spec : TypeSpec, spec.WellFormed ∧ spec.render = key ∧ c.Supports r spec t

theorem coherent_empty (r : Registry σ) : Coherent Dict.empty r := by
  intro key t h
  rw [Dict.get?_empty] at h
  cases h

theorem Supports.advance {c : Cache σ} {r r' : Registry σ} (hadv : r.Advances r')
    {spec : TypeSpec} {t : Ty σ} (h : c.Supports r spec t) : c.Supports r' spec t := by
  cases spec with
  | simple key => exact hadv.settled h
  | parametric container member =>
    obtain ⟨u, m, serial, hu, hm, hattach⟩ := h
    exact ⟨u, m, serial, hadv.settled hu, hm, hattach⟩

/-- Look-ups in the registry keep a cache coherent with it. -/
theorem Coherent.advance {c : Cache σ} {r r' : Registry σ} (hadv : r.Advances r')
    (h : c.Coherent r) : c.Coherent r' := by
  intro key t hget
  obtain ⟨spec, hwf, hrender, hsup⟩ := h key t hget
  exact ⟨spec, hwf, hrender, hsup.advance hadv⟩

/-- A cache has one spec for an entry, so what is cached under the text of a spec supports it. -/
theorem Coherent.supports {c : Cache σ} {r : Registry σ} (h : c.Coherent r) {spec : TypeSpec}
    (hwf : spec.WellFormed) {t : Ty σ} (hget : c.get? spec.render = some t) :
    c.Supports r spec t := by
  obtain ⟨spec', hwf', hrender, hsup⟩ := h spec.render t hget
  rwa [hwf'.render_injective hwf hrender] at hsup

/-- What is cached for a spec is what the registry denotes by it. -/
theorem Coherent.denotes {c : Cache σ} {r : Registry σ} (h : c.Coherent r) {spec : TypeSpec}
    (hwf : spec.WellFormed) {t : Ty σ} (hget : c.get? spec.render = some t) :
    r.Denotes spec (.ok t) := by
  induction spec generalizing t with
  | simple key => exact .key (.bound (h.supports hwf hget))
  | parametric container member ih =>
    obtain ⟨u, m, serial, hu, hm, hattach⟩ := h.supports hwf hget
    exact .attached (ih hwf.member hm) (.bound hu) hattach.symm

theorem Supports.insert {c : Cache σ} {r : Registry σ} {key : String} (hnew : c.get? key = none)
    (t : Ty σ) {spec : TypeSpec} {u : Ty σ} (h : c.Supports r spec u) :
    Supports (c.insert key t) r spec u := by
  cases spec with
  | simple _ => exact h
  | parametric container member =>
    obtain ⟨v, m, serial, hv, hm, hattach⟩ := h
    exact ⟨v, m, serial, hv, get?_insert_of_get? hnew t hm, hattach⟩

/-- A supported type may be stored under the text of its spec. -/
theorem Coherent.insert {c : Cache σ} {r : Registry σ} (h : c.Coherent r) {spec : TypeSpec}
    (hwf : spec.WellFormed) (hnew : c.get? spec.render = none) {t : Ty σ}
    (hsup : c.Supports r spec t) : Coherent (c.insert spec.render t) r := by
  intro key u hget
  by_cases hkey : key = spec.render
  · subst hkey
    rw [Dict.get?_insert_self] at hget
    cases hget
    exact ⟨spec, hwf, rfl, hsup.insert hnew t⟩
  · rw [Dict.get?_insert_of_ne _ _ hkey] at hget
    obtain ⟨spec', hwf', hrender, hsup'⟩ := h key u hget
    exact ⟨spec', hwf', hrender, hsup'.insert hnew t⟩

/-! ## Dropping entries -/

/-- The text of a spec depends on the names that the spec mentions. -/
theorem dependsOn_render {spec : TypeSpec} (hwf : spec.WellFormed) (name : String) :
    dependsOn spec.render name = spec.mentions name := by
  rw [dependsOn, TypeSpec.parse_eq_ok_iff.2 ⟨hwf, rfl⟩]

theorem get?_invalidate_render (c : Cache σ) {spec : TypeSpec} (hwf : spec.WellFormed)
    (name : String) :
    (c.invalidate name).get? spec.render
      = if spec.mentions name then none else c.get? spec.render := by
  rw [invalidate, Dict.get?_keep, dependsOn_render hwf]
  cases spec.mentions name <;> rfl

/-- **Invalidation** keeps the cache coherent with every registry that differs only in the key. -/
theorem Coherent.invalidate {c : Cache σ} {r r' : Registry σ} {name : String} (h : c.Coherent r)
    (hothers : ∀ key, key ≠ name → r'.settled? key = r.settled? key) :
    (c.invalidate name).Coherent r' := by
  intro key t hget
  have hkept : c.get? key = some t := by
    rw [Cache.invalidate, Dict.get?_keep] at hget
    split at hget
    · exact hget
    · cases hget
  obtain ⟨spec, hwf, rfl, hsup⟩ := h key t hkept
  -- what was kept does not mention the name, and so none of its members does
  have hfree : spec.mentions name = false := by
    rw [get?_invalidate_render c hwf] at hget
    cases hm : spec.mentions name with
    | false => rfl
    | true => rw [hm] at hget; cases hget
  refine ⟨spec, hwf, rfl, ?_⟩
  cases spec with
  | simple key =>
    have hne : key ≠ name := by simpa [TypeSpec.mentions] using hfree
    exact (hothers key hne).trans hsup
  | parametric container member =>
    obtain ⟨u, m, serial, hu, hm, hattach⟩ := hsup
    obtain ⟨hne, hmember⟩ : container ≠ name ∧ member.mentions name = false := by
      simpa [TypeSpec.mentions] using hfree
    refine ⟨u, m, serial, (hothers container hne).trans hu, ?_, hattach⟩
    rw [get?_invalidate_render c hwf.member, hmember, if_neg Bool.false_ne_true, hm]

end Cache

/-! ## Building one level -/

namespace Context

/-- The cache goes with the registry. -/
def Coherent (ctx : Context σ) : Prop := ctx.cache.Coherent ctx.registry

/-- What building a level gives while the cache stays as it is: a type that is supported, or a
    failure that the registry denotes. -/
structure Builds (ctx : Context σ) (spec : TypeSpec) (o : Except TypeError (Ty σ))
    (after : Context σ) : Prop where
  grows : ctx.Grows after
  cache : after.cache = ctx.cache
  outcome : (∃ t, o = .ok t ∧ ctx.cache.Supports after.registry spec t) ∨
    (∃ e, o = .error e ∧ after.registry.Denotes spec (.error e))

theorem lookup_builds {ctx after : Context σ} {key : String} {o : Except TypeError (Ty σ)}
    (h : ctx.lookup key = (o, after)) : ctx.Builds (.simple key) o after := by
  obtain ⟨hgrows, hcache, hans⟩ := lookup_grows h
  refine ⟨hgrows, hcache, ?_⟩
  cases o with
  | error e => exact .inr ⟨e, rfl, .key hans⟩
  | ok t =>
    cases hans with
    | bound ht => exact .inl ⟨t, rfl, ht⟩

theorem wrap_builds {ctx after : Context σ} {container : String} {member : TypeSpec} {m : Ty σ}
    {o : Except TypeError (Ty σ)} (hm : ctx.cache.get? member.render = some m)
    (hden : ctx.registry.Denotes member (.ok m)) (h : ctx.wrap container m = (o, after)) :
    ctx.Builds (.parametric container member) o after := by
  rcases hl : ctx.lookup container with ⟨oc, mid⟩
  obtain ⟨hgrows, hcache, hans⟩ := lookup_grows hl
  have hden' : mid.registry.Denotes member (.ok m) := hden.advance hgrows.registry
  rw [wrap, hl] at h
  cases oc with
  | error e =>
    cases h
    exact ⟨hgrows, hcache, .inr ⟨e, rfl, .container hden' hans⟩⟩
  | ok u =>
    have hu : mid.registry.settled? container = some u := by
      cases hans with
      | bound hu => exact hu
    cases ho : u.withMember mid.next m with
    | error e =>
      simp only [ho] at h
      cases h
      exact ⟨hgrows, hcache, .inr ⟨e, rfl, .attached hden' hans ho.symm⟩⟩
    | ok t =>
      simp only [ho] at h
      cases h
      exact ⟨⟨hgrows.registry, hgrows.cached, hgrows.builders, Nat.le_succ_of_le hgrows.next⟩,
        hcache, .inl ⟨t, rfl, u, m, mid.next, hu, hm, ho⟩⟩

/-! ## Resolving -/

/-- The context after resolving a spec with an outcome. -/
structure Resolved (after : Context σ) (spec : TypeSpec) (o : Except TypeError (Ty σ)) : Prop where
  coherent : after.Coherent
  denotes : after.registry.Denotes spec o
  cached : ∀ t, o = .ok t → after.cache.get? spec.render = some t

/-- One level: a hit gives the entry, a miss builds and stores. -/
theorem fetchOrBuild_resolved {ctx : Context σ} (hcoh : ctx.Coherent) {spec : TypeSpec}
    (hwf : spec.WellFormed) {build : Context σ → Result σ (Ty σ)}
    (hbuild : ctx.Builds spec (build ctx).1 (build ctx).2) :
    (ctx.fetchOrBuild spec.render build).2.Resolved spec
      (ctx.fetchOrBuild spec.render build).1 := by
  unfold fetchOrBuild Cache.fetchOrBuild
  cases hget : ctx.cache.get? spec.render with
  | some t =>
    -- a hit: no entry is stale
    refine ⟨hcoh, hcoh.denotes hwf hget, ?_⟩
    rintro u hu
    cases hu
    exact hget
  | none =>
    -- a miss: building leaves the cache alone, so the key is still free for what it gives
    rcases hb : build ctx with ⟨o, after⟩
    rw [hb] at hbuild
    obtain ⟨hgrows, hcache, houtcome⟩ := hbuild
    have hafter : after.Coherent := by
      rw [Coherent, hcache]
      exact hcoh.advance hgrows.registry
    rcases houtcome with ⟨t, rfl, hsup⟩ | ⟨e, rfl, hfail⟩
    · have hnew : after.cache.get? spec.render = none := by rw [hcache, hget]
      have hsupport : after.cache.Supports after.registry spec t := by
        rw [hcache]
        exact hsup
      have hstored : Cache.Coherent (after.cache.insert spec.render t) after.registry :=
        Cache.Coherent.insert hafter hwf hnew hsupport
      simp only [Cache.store, hnew]
      refine ⟨hstored, ?_, ?_⟩
      · exact hstored.denotes hwf (Dict.get?_insert_self _ _ _)
      · rintro u hu
        cases hu
        exact Dict.get?_insert_self _ _ _
    · refine ⟨hafter, hfail, ?_⟩
      intro t ht
      cases ht

/-- The loop over the levels of a spec, from the innermost key outwards. -/
theorem resolveLevels_resolved (spec : TypeSpec) : ∀ {ctx : Context σ}, ctx.Coherent →
    spec.WellFormed →
      (ctx.resolveLevels spec.parts.leaf spec.parts.levels).2.Resolved spec
        (ctx.resolveLevels spec.parts.leaf spec.parts.levels).1 := by
  induction spec with
  | simple key =>
    intro ctx hcoh hwf
    exact fetchOrBuild_resolved hcoh hwf (lookup_builds rfl)
  | parametric container member ih =>
    intro ctx hcoh hwf
    obtain ⟨hcoh', hden, hcached⟩ := ih hcoh hwf.member
    simp only [TypeSpec.parts, resolveLevels]
    rcases hm : ctx.resolveLevels member.parts.leaf member.parts.levels with ⟨om, mid⟩
    rw [hm] at hcoh' hden hcached
    cases om with
    | error e =>
      refine ⟨hcoh', .member hden, ?_⟩
      intro t ht
      cases ht
    | ok m =>
      -- the members are cached by now, so the container is wrapped around the very type that is
      have hbuild : mid.Builds (.parametric container member) (mid.wrap container m).1
          (mid.wrap container m).2 := wrap_builds (hcached m rfl) hden rfl
      show (mid.fetchOrBuild (TypeSpec.parametric container member).render
        fun ctx => ctx.wrap container m).2.Resolved _ _
      exact fetchOrBuild_resolved hcoh' hwf hbuild

/-- **Resolving a text** in a coherent context: a text that is no spec is refused and changes
    nothing; a spec is resolved to what the registry denotes by it. -/
theorem resolve_resolved {ctx : Context σ} (hcoh : ctx.Coherent) (s : String) :
    (∃ e, TypeSpec.parse s = .error e ∧ ctx.resolve s = (.error e, ctx)) ∨
    (∃ spec, TypeSpec.parse s = .ok spec ∧
      (ctx.resolve s).2.Resolved spec (ctx.resolve s).1) := by
  unfold resolve
  cases hget : ctx.cache.get? s with
  | some t =>
    obtain ⟨spec, hwf, rfl, -⟩ := hcoh s t hget
    refine .inr ⟨spec, TypeSpec.parse_eq_ok_iff.2 ⟨hwf, rfl⟩, hcoh,
      hcoh.denotes hwf hget, ?_⟩
    rintro u hu
    cases hu
    exact hget
  | none =>
    cases hsplit : TypeSpec.split s with
    | error e => exact .inl ⟨e, TypeSpec.parse_eq_error_iff.2 hsplit, rfl⟩
    | ok parts =>
      obtain ⟨spec, hwf, rfl, rfl⟩ := TypeSpec.split_eq_ok_iff.1 hsplit
      exact .inr ⟨spec, TypeSpec.parse_eq_ok_iff.2 ⟨hwf, rfl⟩, resolveLevels_resolved spec hcoh hwf⟩

/-- A malformed text is refused and nothing changes. -/
theorem resolve_of_malformed {ctx : Context σ} (hcoh : ctx.Coherent) {s : String} {e : TypeError}
    (h : TypeSpec.parse s = .error e) : ctx.resolve s = (.error e, ctx) := by
  rcases resolve_resolved hcoh s with ⟨e', h', hrefused⟩ | ⟨spec, h', -⟩
  · rw [h] at h'
    cases h'
    exact hrefused
  · rw [h] at h'
    cases h'

/-- What a text resolves to is what its spec denotes in the registry after that. -/
theorem resolve_denotes {ctx : Context σ} (hcoh : ctx.Coherent) {s : String} {spec : TypeSpec}
    (h : TypeSpec.parse s = .ok spec) :
    (ctx.resolve s).2.registry.Denotes spec (ctx.resolve s).1 := by
  rcases resolve_resolved hcoh s with ⟨e, h', -⟩ | ⟨spec', h', hres⟩
  · rw [h] at h'
    cases h'
  · rw [h] at h'
    cases h'
    exact hres.denotes

end Context

end ValueTypes
