/-
  Evaluating a spec against the registry alone, without a cache.

  `Registry.evaluate` is the plain meaning of a spec: the members first, then the container is
  looked up, then the members are attached.  It draws a fresh number for every composite it makes,
  so two evaluations never give the same instances.  `Registry.Denotes` is the relation behind it,
  which leaves these numbers open and takes the registry as it stands, with no factory left to run.
  Three facts make it the meeting point of evaluation and resolution:

  * an evaluation gives an outcome that the registry denotes from then on (`evaluate_denotes`);
  * later look-ups take no outcome back (`Denotes.advance`);
  * the outcomes denoted by one spec agree (`Denotes.agree`), also between two registries that went
    on from one by different look-ups, if the factories make the same type on every number
    (`Answers.agree`); and so it is with every relation that attaching members keeps
    (`Denotes.related`).
-/
import ValueTypes.Context
import ValueTypes.Proofs.Lookup
import ValueTypes.Proofs.TyEquality

namespace ValueTypes

variable {σ : Type}

/-! ## Keys of a spec -/

namespace TypeSpec

theorem mentions_key (key : String) : (simple key).mentions key = true := beq_self_eq_true key

theorem mentions_container (container : String) (member : TypeSpec) :
    (parametric container member).mentions container = true := by
  rw [mentions, beq_self_eq_true, Bool.true_or]

theorem mentions_of_member {container : String} {member : TypeSpec} {key : String}
    (h : member.mentions key = true) : (parametric container member).mentions key = true := by
  rw [mentions, h, Bool.or_true]

end TypeSpec

/-! ## Evaluation -/

namespace Registry

/-- The type of a spec: its members, its container, and the one attached to the other. -/
def evaluate (r : Registry σ) (next : Nat) :
    TypeSpec → Except TypeError (Ty σ) × Registry σ × Nat
  | .simple key => r.resolve next key
  | .parametric container member =>
    match r.evaluate next member with
    | (.error e, r, next) => (.error e, r, next)
    | (.ok t, r, next) =>
      match r.resolve next container with
      | (.error e, r, next) => (.error e, r, next)
      | (.ok u, r, next) => (u.withMember next t, r, next + 1)

/-- Each factory that has not run yet makes the same type whenever it is run; only the numbers of
    the instances may differ. -/
def Uniform [DecidableEq σ] (r : Registry σ) : Prop :=
  ∀ key factory ticket, r.bindings.get? key = some (.lazy factory ticket none) →
    ∀ m n, (factory m).1.same (factory n).1 = true

/-- The factory under a key, if it has not run yet, makes the same type whenever it is run. -/
def UniformAt [DecidableEq σ] (r : Registry σ) (key : String) : Prop :=
  ∀ factory ticket, r.bindings.get? key = some (.lazy factory ticket none) →
    ∀ m n, (factory m).1.same (factory n).1 = true

/-- However look-ups go on from a key whose factory makes the same type on every number, they give
    the same type for it. -/
theorem Answers.agree_of_uniformAt [DecidableEq σ] {r a b : Registry σ} {key : String}
    (hunif : r.UniformAt key) (ha : r.AdvancesAt a key) (hb : r.AdvancesAt b key)
    {o o' : Except TypeError (Ty σ)} (h : a.Answers key o) (h' : b.Answers key o') :
    Ty.Agree o o' := by
  cases hk : r.bindings.get? key with
  | none =>
    rw [h.unique (.unbound (ha.unbound hk)), h'.unique (.unbound (hb.unbound hk))]
    exact .refl _
  | some binding =>
    cases hs : binding.settled? with
    | some t =>
      have hset : r.settled? key = some t := by rw [settled?, hk]; exact hs
      rw [h.unique (.bound (ha.settled hset)), h'.unique (.bound (hb.settled hset))]
      exact .refl _
    | none =>
      obtain ⟨factory, ticket, rfl⟩ := Binding.eq_lazy_of_settled? hs
      obtain ⟨m, rfl⟩ := Answers.made ha hk h
      obtain ⟨n, rfl⟩ := Answers.made hb hk h'
      exact hunif factory ticket hk m n

/-- Two look-ups of a key, however late, have answers that agree. -/
theorem Answers.agree [DecidableEq σ] {r a b : Registry σ} (hunif : r.Uniform)
    (ha : r.Advances a) (hb : r.Advances b) {key : String} {o o' : Except TypeError (Ty σ)}
    (h : a.Answers key o) (h' : b.Answers key o') : Ty.Agree o o' :=
  h.agree_of_uniformAt (hunif key) (ha key) (hb key) h'

/-- The outcomes of a spec in a registry that has no factory left to run for it.  The composites may
    have any numbers. -/
inductive Denotes (r : Registry σ) : TypeSpec → Except TypeError (Ty σ) → Prop where
  | key {key : String} {o : Except TypeError (Ty σ)} (h : r.Answers key o) :
    Denotes r (.simple key) o
  /-- The members fail. -/
  | member {container : String} {member : TypeSpec} {e : TypeError}
    (h : Denotes r member (.error e)) : Denotes r (.parametric container member) (.error e)
  /-- The container is not there. -/
  | container {container : String} {member : TypeSpec} {t : Ty σ} {e : TypeError}
    (hmember : Denotes r member (.ok t)) (h : r.Answers container (.error e)) :
    Denotes r (.parametric container member) (.error e)
  /-- The container takes the members, or refuses them. -/
  | attached {container : String} {member : TypeSpec} {t u : Ty σ} {serial : Nat}
    {o : Except TypeError (Ty σ)} (hmember : Denotes r member (.ok t))
    (hcontainer : r.Answers container (.ok u)) (h : o = u.withMember serial t) :
    Denotes r (.parametric container member) o

/-- Later look-ups take no outcome back. -/
theorem Denotes.advance {r r' : Registry σ} (hadv : r.Advances r') {spec : TypeSpec}
    {o : Except TypeError (Ty σ)} (h : r.Denotes spec o) : r'.Denotes spec o := by
  induction h with
  | key h => exact .key (h.advance hadv)
  | member _ ih => exact .member ih
  | container _ h ih => exact .container ih (h.advance hadv)
  | attached _ hcontainer h ih => exact .attached ih (hcontainer.advance hadv) h

/-- A relation of the answers for keys that goes on to the outcomes of specs: the second relation
    holds of all that the first does, and is kept when members are attached. -/
structure Lifts (K R : Except TypeError (Ty σ) → Except TypeError (Ty σ) → Prop) : Prop where
  key : ∀ {o o'}, K o o' → R o o'
  not_ok_error : ∀ {t e}, ¬R (.ok t) (.error e)
  not_error_ok : ∀ {t e}, ¬R (.error e) (.ok t)
  attached : ∀ {u u' t t'} (m n : Nat), K (.ok u) (.ok u') → R (.ok t) (.ok t') →
    R (u.withMember m t) (u'.withMember n t')

/-- The outcomes of one spec are related between registries whose answers for its keys are. -/
theorem Denotes.related {K R : Except TypeError (Ty σ) → Except TypeError (Ty σ) → Prop}
    (hlifts : Lifts K R) {r r' : Registry σ} {spec : TypeSpec}
    (hkeys : ∀ key, spec.mentions key = true →
      ∀ ⦃o o'⦄, r.Answers key o → r'.Answers key o' → K o o')
    {o o' : Except TypeError (Ty σ)} (h : r.Denotes spec o) (h' : r'.Denotes spec o') :
    R o o' := by
  induction h generalizing o' with
  | key h =>
    cases h' with
    | key h' => exact hlifts.key (hkeys _ (TypeSpec.mentions_key _) h h')
  | member _ ih =>
    have ih := @ih fun key hm => hkeys key (TypeSpec.mentions_of_member hm)
    cases h' with
    | member h' => exact ih h'
    | container hm _ => exact (hlifts.not_error_ok (ih hm)).elim
    | attached hm _ _ => exact (hlifts.not_error_ok (ih hm)).elim
  | container _ hc ih =>
    have ih := @ih fun key hm => hkeys key (TypeSpec.mentions_of_member hm)
    have hkey := hkeys _ (TypeSpec.mentions_container _ _)
    cases h' with
    | member h' => exact (hlifts.not_ok_error (ih h')).elim
    | container _ hc' => exact hlifts.key (hkey hc hc')
    | attached _ hc' _ => exact (hlifts.not_error_ok (hlifts.key (hkey hc hc'))).elim
  | attached _ hc ho ih =>
    have ih := @ih fun key hm => hkeys key (TypeSpec.mentions_of_member hm)
    have hkey := hkeys _ (TypeSpec.mentions_container _ _)
    cases h' with
    | member h' => exact (hlifts.not_ok_error (ih h')).elim
    | container _ hc' => exact (hlifts.not_ok_error (hlifts.key (hkey hc hc'))).elim
    | attached hm hc' ho' =>
      rw [ho, ho']
      exact hlifts.attached _ _ (hkey hc hc') (ih hm)

/-- The outcomes of one spec agree between registries that agree on its keys. -/
theorem Denotes.agree [DecidableEq σ] {r r' : Registry σ} {spec : TypeSpec}
    (hkeys : ∀ key, spec.mentions key = true →
      ∀ ⦃o o'⦄, r.Answers key o → r'.Answers key o' → Ty.Agree o o')
    {o o' : Except TypeError (Ty σ)} (h : r.Denotes spec o) (h' : r'.Denotes spec o') :
    Ty.Agree o o' := by
  have hlifts : Lifts (σ := σ) Ty.Agree Ty.Agree :=
    ⟨fun h => h, fun h => h.elim, fun h => h.elim, fun m n hu ht => Ty.withMember_agree hu ht m n⟩
  exact h.related hlifts hkeys h'

/-- **Evaluation** advances the registry and gives an outcome that it denotes from then on. -/
theorem evaluate_denotes (spec : TypeSpec) : ∀ {r r' : Registry σ} {next next' : Nat}
    {o : Except TypeError (Ty σ)}, r.evaluate next spec = (o, r', next') →
      r.Advances r' ∧ r'.Denotes spec o := by
  induction spec with
  | simple key =>
    intro r r' next next' o h
    obtain ⟨hadv, hans, -⟩ := resolve_answers h
    exact ⟨hadv, .key hans⟩
  | parametric container member ih =>
    intro r r' next next' o h
    rw [evaluate] at h
    rcases hm : r.evaluate next member with ⟨om, rm, nm⟩
    obtain ⟨hadv, hden⟩ := ih hm
    rw [hm] at h
    cases om with
    | error e =>
      cases h
      exact ⟨hadv, .member hden⟩
    | ok t =>
      rcases hc : rm.resolve nm container with ⟨oc, rc, nc⟩
      obtain ⟨hadv', hans, -⟩ := resolve_answers hc
      simp only [hc] at h
      cases oc with
      | error e =>
        cases h
        exact ⟨hadv.trans hadv', .container (hden.advance hadv') hans⟩
      | ok u =>
        cases h
        exact ⟨hadv.trans hadv', .attached (hden.advance hadv') hans rfl⟩

end Registry

namespace Context

/-- The outcome of a spec text without the cache, and the context after it. -/
def evaluate (ctx : Context σ) (s : String) : Result σ (Ty σ) :=
  match TypeSpec.parse s with
  | .error e => (.error e, ctx)
  | .ok spec =>
    let (o, registry, next) := ctx.registry.evaluate ctx.next spec
    (o, { ctx with registry := registry, next := next })

/-- A text that is no spec is refused, and nothing else happens. -/
theorem evaluate_of_malformed (ctx : Context σ) {s : String} {e : TypeError}
    (h : TypeSpec.parse s = .error e) : ctx.evaluate s = (.error e, ctx) := by
  rw [evaluate, h]

/-- What a spec evaluates to is what it denotes in the registry after that. -/
theorem evaluate_denotes (ctx : Context σ) {s : String} {spec : TypeSpec}
    (h : TypeSpec.parse s = .ok spec) :
    (ctx.evaluate s).2.registry.Denotes spec (ctx.evaluate s).1 := by
  rw [evaluate, h]
  exact (Registry.evaluate_denotes spec rfl).2

/-- Evaluation does not touch the cache. -/
theorem evaluate_cache (ctx : Context σ) (s : String) : (ctx.evaluate s).2.cache = ctx.cache := by
  unfold evaluate
  cases TypeSpec.parse s with
  | error e => rfl
  | ok spec => rfl

/-- Evaluation does no more to the registry than looking keys up. -/
theorem evaluate_advances (ctx : Context σ) (s : String) :
    ctx.registry.Advances (ctx.evaluate s).2.registry := by
  unfold evaluate
  cases TypeSpec.parse s with
  | error e => exact .refl _
  | ok spec => exact (Registry.evaluate_denotes spec rfl).1

end Context

end ValueTypes
