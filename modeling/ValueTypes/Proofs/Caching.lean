/-
  What a resolution leaves in the cache.

  A resolution caches a spec and the specs nested in it, the innermost first, and it ends at the
  first that cannot be made.  So what it leaves is told by the place where it ends:

  * if it succeeds, the texts of the spec and of all nested specs are cached;
  * if it fails, it does so at the innermost level that cannot be made (`Registry.FailsAt`), and the
    texts of the specs within that level are cached;
  * a text that is no spec leaves nothing.

  Nothing else enters the cache, and nothing leaves it (`Cache.Caches`).  A hit ends a resolution at
  once, and still all nested specs are cached: a coherent cache has them for every spec that it has
  (`Coherent.cached_texts`).  For the same reason neither a level that fails nor a level around it
  is cached, before or after (`Coherent.uncached`).
-/
import ValueTypes.Proofs.Sharing

namespace ValueTypes

variable {σ : Type}

namespace TypeSpec

/-- The spec and the specs nested in it, from the outside in. -/
def nested : TypeSpec → List TypeSpec
  | simple key => [simple key]
  | parametric container member => parametric container member :: member.nested

theorem self_mem_nested (spec : TypeSpec) : spec ∈ spec.nested := by
  cases spec <;> exact List.mem_cons_self

/-- The texts of the levels are the written forms of the nested specs. -/
theorem texts_eq (spec : TypeSpec) : spec.texts = spec.nested.map render := by
  induction spec with
  | simple key => rfl
  | parametric container member ih => rw [texts, nested, List.map_cons, ih]

/-- There is a text for every level and one for the leaf. -/
theorem length_texts (spec : TypeSpec) : spec.texts.length = spec.depth + 1 := by
  induction spec with
  | simple key => rfl
  | parametric container member ih => rw [texts, depth, List.length_cons, ih]

/-- What is nested in a well formed spec is well formed. -/
theorem WellFormed.nested {spec : TypeSpec} (h : spec.WellFormed) :
    ∀ s ∈ spec.nested, s.WellFormed := by
  induction spec with
  | simple key =>
    intro s hs
    cases List.mem_singleton.1 hs
    exact h
  | parametric container member ih =>
    intro s hs
    rcases List.mem_cons.1 hs with rfl | hs
    · exact h
    · exact ih h.member s hs

/-- What is nested from some place on is what the spec at that place has nested in it. -/
theorem nested_eq_append {spec level : TypeSpec} {outer inner : List TypeSpec}
    (h : spec.nested = outer ++ level :: inner) : level.nested = level :: inner := by
  induction spec generalizing outer with
  | simple key =>
    cases outer with
    | nil =>
      cases h
      rfl
    | cons s outer =>
      obtain ⟨-, hrest⟩ := List.cons.inj h
      exact absurd hrest.symm (List.append_ne_nil_of_right_ne_nil _ (List.cons_ne_nil _ _))
  | parametric container member ih =>
    cases outer with
    | nil =>
      cases h
      rfl
    | cons s outer => exact ih (List.cons.inj h).2

end TypeSpec

/-! ## Levels that fail -/

/-- Which members a type is given makes no difference to whether it takes them. -/
theorem Ty.withMember_eq_error {u m : Ty σ} {serial : Nat} {e : TypeError}
    (h : u.withMember serial m = .error e) : ∀ serial m, u.withMember serial m = .error e := by
  intro serial' m'
  cases u with
  | plain env k =>
    rw [withMember] at h ⊢
    split at h
    · cases h
    · rename_i hk
      rw [if_neg hk]
      exact h
  | list env existing => exact h
  | record env schema fields => exact h

namespace Registry

/-- Why the outermost level of a spec cannot be made, whatever is nested in it. -/
inductive HeadFails (r : Registry σ) : TypeSpec → TypeError → Prop where
  /-- The key is not there. -/
  | unknown {spec : TypeSpec} (h : r.bindings.get? spec.head = none) :
    HeadFails r spec (.unknownType spec.head)
  /-- The container takes no members. -/
  | refused {container : String} {member : TypeSpec} {u : Ty σ} {e : TypeError}
    (hu : r.settled? container = some u) (h : ∀ serial m, u.withMember serial m = .error e) :
    HeadFails r (.parametric container member) e

/-- The innermost level of a spec that cannot be made, between the levels around it and the levels
    within. -/
structure FailsAt (r : Registry σ) (spec : TypeSpec) (outer : List TypeSpec) (level : TypeSpec)
    (inner : List TypeSpec) (e : TypeError) : Prop where
  levels : spec.nested = outer ++ level :: inner
  fails : r.HeadFails level e
  innermost : ∀ s ∈ inner, ∀ e', ¬r.HeadFails s e'

/-- A failure inside is a failure of the whole spec, one level further in. -/
theorem FailsAt.around {r : Registry σ} {member level : TypeSpec} {outer inner : List TypeSpec}
    {e : TypeError} (h : r.FailsAt member outer level inner e) (container : String) :
    r.FailsAt (.parametric container member) (.parametric container member :: outer) level inner
      e :=
  ⟨congrArg _ h.levels, h.fails, h.innermost⟩

/-- A key that fails is not there. -/
theorem HeadFails.of_key {r : Registry σ} {key : String} {e : TypeError}
    (h : r.Denotes (.simple key) (.error e)) : r.HeadFails (.simple key) e := by
  cases h with
  | key h =>
    cases h with
    | unbound hn => exact .unknown hn

/-- A composite that fails while its members do not fails by its container. -/
theorem HeadFails.of_container {r : Registry σ} {container : String} {member : TypeSpec}
    {m : Ty σ} {e : TypeError} (hm : r.Denotes member (.ok m))
    (h : r.Denotes (.parametric container member) (.error e)) :
    r.HeadFails (.parametric container member) e := by
  cases h with
  | member hfails =>
    classical
    -- the members do not fail and succeed at once
    refine (hm.agree ?_ hfails).elim
    intro key _ o o' h h'
    rw [h.unique h']
    exact .refl _
  | container _ hc =>
    cases hc with
    | unbound hn => exact .unknown hn
  | attached _ hc ho =>
    cases hc with
    | bound hu => exact .refused hu (Ty.withMember_eq_error ho.symm)

end Registry

/-! ## What is cached -/

namespace Cache

/-- The second cache has the entries of the first, and entries under some texts besides, and no
    others. -/
structure Caches (c c' : Cache σ) (texts : List String) : Prop where
  kept : c.Keeps c'
  keys : ∀ key, (c'.get? key).isSome ↔ (c.get? key).isSome ∨ key ∈ texts

theorem Caches.refl {c : Cache σ} {texts : List String}
    (h : ∀ text ∈ texts, (c.get? text).isSome) : c.Caches c texts :=
  ⟨fun _ _ => id, fun key => ⟨.inl, fun hkey => hkey.elim id (h key)⟩⟩

/-- Two resolutions in a row cache the texts of both. -/
theorem Caches.trans {a b c : Cache σ} {texts texts' : List String} (hab : a.Caches b texts)
    (hbc : b.Caches c texts') : a.Caches c (texts' ++ texts) := by
  refine ⟨hab.kept.trans hbc.kept, ?_⟩
  intro key
  rw [hbc.keys, hab.keys, or_assoc, List.mem_append, or_comm (a := key ∈ texts)]

variable {c : Cache σ} {r : Registry σ} {spec : TypeSpec} {t : Ty σ}

/-- The specs nested in a cached spec are cached. -/
theorem Coherent.cached_texts (h : c.Coherent r) (hwf : spec.WellFormed)
    (hget : c.get? spec.render = some t) : ∀ text ∈ spec.texts, (c.get? text).isSome := by
  intro text hmem
  obtain ⟨i, hi⟩ := List.getElem?_of_mem hmem
  have hle : i ≤ spec.depth := by
    have hlt : i < spec.texts.length := (List.getElem?_eq_some_iff.1 hi).1
    rw [spec.length_texts] at hlt
    exact Nat.le_of_lt_succ hlt
  obtain ⟨text', u, hshares⟩ := h.chain hwf hget hle
  have htext : text = text' := Option.some.inj (hi.symm.trans hshares.nested)
  rw [htext, hshares.cached]
  rfl

/-- What is cached could be made. -/
theorem Coherent.not_headFails (h : c.Coherent r) (hwf : spec.WellFormed)
    (hget : (c.get? spec.render).isSome) {e : TypeError} : ¬r.HeadFails spec e := by
  obtain ⟨t, ht⟩ := Option.isSome_iff_exists.1 hget
  have hsup := h.supports hwf ht
  intro hfails
  cases hfails with
  | unknown hn =>
    have hnone : r.settled? spec.head = none := by rw [Registry.settled?, hn]; rfl
    cases spec with
    | simple key =>
      rw [TypeSpec.head, show r.settled? key = some t from hsup] at hnone
      cases hnone
    | parametric container member =>
      obtain ⟨u, -, -, hu, -, -⟩ := hsup
      rw [TypeSpec.head, hu] at hnone
      cases hnone
  | refused hu hrefused =>
    obtain ⟨v, m, serial, hv, -, hattach⟩ := hsup
    rw [hu] at hv
    cases hv
    rw [hrefused] at hattach
    cases hattach

/-- Neither the level at which a spec fails nor a level around it is cached. -/
theorem Coherent.uncached (h : c.Coherent r) (hwf : spec.WellFormed) {level : TypeSpec}
    {outer inner : List TypeSpec} {e : TypeError} (hfails : r.FailsAt spec outer level inner e) :
    ∀ s ∈ outer ++ [level], c.get? s.render = none := by
  intro s hs
  have hlevel : level ∈ s.nested := by
    rcases List.mem_append.1 hs with houter | hlast
    · -- the level that fails is nested in every level around it
      obtain ⟨before, after, rfl⟩ := List.append_of_mem houter
      rw [TypeSpec.nested_eq_append (hfails.levels.trans (List.append_assoc before _ _))]
      exact List.mem_cons_of_mem s (List.mem_append_right after List.mem_cons_self)
    · rw [List.mem_singleton.1 hlast]
      exact level.self_mem_nested
  have hwfs : ∀ s ∈ spec.nested, s.WellFormed := hwf.nested
  rw [hfails.levels, List.append_cons, List.forall_mem_append] at hwfs
  obtain ⟨hwfs, -⟩ := hwfs
  rw [← Option.not_isSome_iff_eq_none]
  intro hcached
  obtain ⟨t, ht⟩ := Option.isSome_iff_exists.1 hcached
  have hmem : level.render ∈ s.texts := by
    rw [s.texts_eq]
    exact List.mem_map_of_mem hlevel
  exact h.not_headFails (hwfs level (List.mem_append_right _ List.mem_cons_self))
    (h.cached_texts (hwfs s hs) ht _ hmem) hfails.fails

end Cache

namespace Context

/-- What a resolution of a spec leaves of a context, by its outcome. -/
inductive Leaves (before after : Context σ) (spec : TypeSpec) :
    Except TypeError (Ty σ) → Prop where
  | resolved {t : Ty σ} (h : before.cache.Caches after.cache spec.texts) :
    Leaves before after spec (.ok t)
  | failed {outer inner : List TypeSpec} {level : TypeSpec} {e : TypeError}
    (hfails : after.registry.FailsAt spec outer level inner e)
    (h : before.cache.Caches after.cache (inner.map TypeSpec.render))
    (huncached : ∀ s ∈ outer ++ [level], after.cache.get? s.render = none) :
    Leaves before after spec (.error e)

/-- A fetch caches its key if it succeeds, and nothing otherwise. -/
theorem fetchOrBuild_caches {ctx after : Context σ} {key : String}
    {build : Context σ → Result σ (Ty σ)} {o : Except TypeError (Ty σ)}
    (hcache : (build ctx).2.cache = ctx.cache) (h : ctx.fetchOrBuild key build = (o, after)) :
    (∀ t, o = .ok t → ctx.cache.Caches after.cache [key]) ∧
      ∀ e, o = .error e → after.cache = ctx.cache := by
  unfold fetchOrBuild Cache.fetchOrBuild at h
  cases hget : ctx.cache.get? key with
  | some t =>
    rw [hget] at h
    cases h
    refine ⟨fun _ _ => .refl ?_, nofun⟩
    intro text hmem
    rw [List.mem_singleton.1 hmem, hget]
    rfl
  | none =>
    rcases hb : build ctx with ⟨ob, mid⟩
    simp only [hget, hb] at h hcache
    cases ob with
    | error e =>
      cases h
      exact ⟨nofun, fun _ _ => hcache⟩
    | ok t =>
      have hnew : mid.cache.get? key = none := by rw [hcache, hget]
      simp only [Cache.store, hnew] at h
      cases h
      refine ⟨fun _ _ => ⟨?_, ?_⟩, nofun⟩
      · intro other u hother
        rw [← hcache] at hother
        exact Cache.get?_insert_of_get? hnew t hother
      · intro other
        show ((mid.cache.insert key t).get? other).isSome ↔ _
        rw [Dict.get?_insert, hcache, List.mem_singleton]
        split
        · rename_i heq
          simp [heq]
        · rename_i hne
          simp [hne]

/-- The fetch of a spec once the specs nested in it are cached. -/
theorem fetchOrBuild_leaves {before ctx after : Context σ} {spec : TypeSpec}
    {inner : List TypeSpec} {o : Except TypeError (Ty σ)} (build : Context σ → Result σ (Ty σ))
    (hwf : spec.WellFormed) (hnested : spec.nested = spec :: inner)
    (hinner : before.cache.Caches ctx.cache (inner.map TypeSpec.render))
    (hcache : (build ctx).2.cache = ctx.cache) (hres : after.Resolved spec o)
    (hfails : ∀ e, after.registry.Denotes spec (.error e) → after.registry.HeadFails spec e)
    (h : ctx.fetchOrBuild spec.render build = (o, after)) : before.Leaves after spec o := by
  obtain ⟨hcoh, hden, -⟩ := hres
  obtain ⟨hok, herror⟩ := fetchOrBuild_caches hcache h
  cases o with
  | ok t =>
    refine .resolved ?_
    rw [spec.texts_eq, hnested]
    exact hinner.trans (hok t rfl)
  | error e =>
    rw [← herror e rfl] at hinner
    have hat : after.registry.FailsAt spec [] spec inner e := by
      refine ⟨hnested, hfails e hden, ?_⟩
      intro s hs e'
      have hwfs : s.WellFormed := hwf.nested s (hnested ▸ List.mem_cons_of_mem spec hs)
      exact hcoh.not_headFails hwfs ((hinner.keys _).2 (.inr (List.mem_map_of_mem hs)))
    exact .failed hat hinner (hcoh.uncached hwf hat)

/-- Resolving the levels of a spec leaves behind just the texts that it should. -/
theorem resolveLevels_leaves (spec : TypeSpec) : ∀ {ctx : Context σ}, ctx.Coherent →
    spec.WellFormed →
      ctx.Leaves (ctx.resolveLevels spec.parts.leaf spec.parts.levels).2 spec
        (ctx.resolveLevels spec.parts.leaf spec.parts.levels).1 := by
  induction spec with
  | simple key =>
    intro ctx hcoh hwf
    have hcache : (ctx.lookup key).2.cache = ctx.cache := (lookup_grows rfl).2.1
    exact fetchOrBuild_leaves (fun ctx => ctx.lookup key) hwf rfl (.refl nofun) hcache
      (resolveLevels_resolved (.simple key) hcoh hwf) (fun _ => .of_key) rfl
  | parametric container member ih =>
    intro ctx hcoh hwf
    have hmember := ih hcoh hwf.member
    have hmid := resolveLevels_resolved member hcoh hwf.member
    have hres := resolveLevels_resolved (.parametric container member) hcoh hwf
    simp only [TypeSpec.parts, resolveLevels] at hres ⊢
    rcases hm : ctx.resolveLevels member.parts.leaf member.parts.levels with ⟨om, mid⟩
    rw [hm] at hmember hmid
    simp only [hm] at hres ⊢
    cases hmember with
    | failed hfails hcaches _ =>
      -- the members fail, and the composite fails where they do
      have hat := hfails.around container
      exact .failed hat hcaches (Cache.Coherent.uncached hmid.coherent hwf hat)
    | @resolved m hcaches =>
      rw [member.texts_eq] at hcaches
      have hcache : (mid.wrap container m).2.cache = mid.cache :=
        (wrap_builds (hmid.cached m rfl) hmid.denotes rfl).cache
      have hgrows : mid.Grows (mid.fetchOrBuild (TypeSpec.parametric container member).render
          fun ctx => ctx.wrap container m).2 := fetchOrBuild_grows _ (wrap_grows mid container m)
      have hden := hmid.denotes.advance hgrows.registry
      exact fetchOrBuild_leaves (fun ctx => ctx.wrap container m) hwf rfl hcaches hcache hres
        (fun e => .of_container hden) rfl

/-- **What a resolution leaves in the cache**, in every reachable context and for every text.  A text
    that is no spec leaves nothing.  A spec leaves its text and the texts of all nested specs if it
    is resolved, also on a hit; and if it fails, the texts within the innermost level that cannot be
    made, but neither that level nor a level around it. -/
theorem resolve_leaves (actions : List (Action σ)) (s : String) :
    let ctx : Context σ := empty.after actions
    (∀ e, TypeSpec.parse s = .error e →
      (∃ fault : TypeSpec.Fault, e = .malformedSpec s fault.reason) ∧
        ctx.resolve s = (.error e, ctx)) ∧
    ∀ spec, TypeSpec.parse s = .ok spec → ctx.Leaves (ctx.resolve s).2 spec (ctx.resolve s).1 := by
  intro ctx
  have hcoh : ctx.Coherent := reachable_coherent actions
  refine ⟨?_, ?_⟩
  · intro e hparse
    exact ⟨TypeSpec.split_eq_error (TypeSpec.parse_eq_error_iff.1 hparse),
      resolve_of_malformed hcoh hparse⟩
  · intro spec hparse
    obtain ⟨hwf, rfl⟩ := TypeSpec.parse_eq_ok_iff.1 hparse
    cases hget : ctx.cache.get? spec.render with
    | some t =>
      rw [resolve_of_get? hget]
      exact .resolved (.refl (Cache.Coherent.cached_texts hcoh hwf hget))
    | none =>
      rw [resolve, hget, TypeSpec.split_render hwf]
      exact resolveLevels_leaves spec hcoh hwf

/-- The container in the middle takes no members: what is within it is cached, and it is not. -/
theorem resolve_leaves_within_text :
    let actions : List (Action Empty) := [.register "array" (.nominal 0 .array),
      .register "text" (.nominal 1 .string), .draw 2]
    let ctx : Context Empty := empty.after actions
    let after : Context Empty := (ctx.resolve "array<text<array<text>>>").2
    ∃ spec, TypeSpec.parse "array<text<array<text>>>" = .ok spec ∧
      ctx.Leaves after spec (ctx.resolve "array<text<array<text>>>").1 ∧
      after.cache.keys = ["array<text>", "text"] := by
  intro actions ctx after
  obtain ⟨-, hleaves⟩ := resolve_leaves actions "array<text<array<text>>>"
  exact ⟨_, rfl, hleaves _ rfl, rfl⟩

end Context

end ValueTypes
