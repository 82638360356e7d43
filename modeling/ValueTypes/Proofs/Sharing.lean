/-
  Composites share their parts.

  A composite is made around the very type that is cached for its members, and it stays cached only
  as long as that type does: this is what it means for the cache to be coherent.  So the members of
  a resolved type, from the outside in, are what is cached under the texts of the nested specs
  (`TypeSpec.texts`), and the innermost of them is the type bound to the innermost key
  (`Coherent.chain`).  Every reachable context is coherent, whatever was resolved, bound or dropped
  before, and in whatever order.

  That two types are one instance is stated as their equality, by which their numbers are equal too.
-/
import ValueTypes.Proofs.Run

namespace ValueTypes

variable {σ : Type}

/-- The texts of a spec and of the specs nested in it, from the outside in. -/
def TypeSpec.texts : TypeSpec → List String
  | simple key => [key]
  | parametric container member => (parametric container member).render :: member.texts

namespace Ty

theorem chain_zero (t : Ty σ) : t.chain[0]? = some t := by cases t <;> rfl

/-- A container with members goes on with the chain of its members. -/
theorem chain_of_withMember {u m t : Ty σ} {serial : Nat} (h : u.withMember serial m = .ok t) :
    t.chain = t :: m.chain := by
  cases u with
  | plain e k =>
    rw [withMember] at h
    split at h
    · cases h
      rfl
    · cases h
  | list e existing => cases h
  | record e schema fields => cases h

end Ty

namespace Cache

/-- A level of a cached spec: its text, the type there, which is cached under that text, and for the
    innermost level the binding of its key. -/
structure Shares (c : Cache σ) (r : Registry σ) (spec : TypeSpec) (t : Ty σ) (i : Nat)
    (text : String) (u : Ty σ) : Prop where
  nested : spec.texts[i]? = some text
  member : t.chain[i]? = some u
  cached : c.get? text = some u
  bound : i = spec.depth → r.settled? text = some u

/-- What is cached for a spec has what is cached for the nested specs as its members. -/
theorem Coherent.chain {c : Cache σ} {r : Registry σ} (h : c.Coherent r) {spec : TypeSpec}
    (hwf : spec.WellFormed) {t : Ty σ} (hget : c.get? spec.render = some t) {i : Nat}
    (hi : i ≤ spec.depth) : ∃ text u, c.Shares r spec t i text u := by
  induction spec generalizing t i with
  | simple key =>
    obtain rfl : i = 0 := Nat.le_zero.1 hi
    refine ⟨key, t, rfl, t.chain_zero, hget, ?_⟩
    intro _
    exact h.supports hwf hget
  | parametric container member ih =>
    cases i with
    | zero =>
      refine ⟨_, t, rfl, t.chain_zero, hget, ?_⟩
      intro hdepth
      cases hdepth
    | succ i =>
      -- one level further in is a level of the members, which are cached as they are
      obtain ⟨u, m, serial, -, hm, hattach⟩ := h.supports hwf hget
      obtain ⟨text, v, hshares⟩ := ih hwf.member hm (Nat.le_of_succ_le_succ hi)
      refine ⟨text, v, hshares.nested, ?_, hshares.cached, ?_⟩
      · rw [Ty.chain_of_withMember hattach]
        exact hshares.member
      · intro hdepth
        exact hshares.bound (Nat.succ.inj hdepth)

end Cache

namespace Context

/-- **Composites share their parts**, in every reachable context: a resolved type and its members
    are, level by level, what the nested specs resolve to, and the innermost is the type that the
    registry has for the innermost key. -/
theorem resolve_shares_members (actions : List (Action σ)) {s : String} {t : Ty σ}
    {after : Context σ} (h : (empty.after actions).resolve s = (.ok t, after)) :
    ∃ spec, TypeSpec.parse s = .ok spec ∧ ∀ i ≤ spec.depth, ∃ text u,
      spec.texts[i]? = some text ∧ t.chain[i]? = some u ∧ after.resolve text = (.ok u, after) ∧
      (i = spec.depth → after.lookup text = (.ok u, after)) := by
  have hcoh : (empty.after actions : Context σ).Coherent := reachable_coherent actions
  rcases resolve_resolved hcoh s with ⟨e, -, hrefused⟩ | ⟨spec, hparse, hres⟩
  · rw [h] at hrefused
    cases hrefused
  · rw [h] at hres
    obtain ⟨hafter, -, hcached⟩ := hres
    obtain ⟨hwf, rfl⟩ := TypeSpec.parse_eq_ok_iff.1 hparse
    refine ⟨spec, hparse, ?_⟩
    intro i hi
    obtain ⟨text, u, hshares⟩ := Cache.Coherent.chain hafter hwf (hcached t rfl) hi
    refine ⟨text, u, hshares.nested, hshares.member, resolve_of_get? hshares.cached, ?_⟩
    intro hdepth
    exact lookup_of_settled? (hshares.bound hdepth)

/-- The members are resolved first and the container is bound anew, and still the composite is made
    around the members that are cached. -/
theorem resolve_shares_members_after_rebinding :
    let actions : List (Action Empty) := [.register "text" (.nominal 0 .string),
      .register "array" (.nominal 1 .array), .draw 2, .resolve (.spec "array<text>"),
      .register "list" (.nominal 2 .array), .draw 1]
    let ctx : Context Empty := empty.after actions
    let after : Context Empty := (ctx.resolve "list<array<text>>").2
    ∃ t, ctx.resolve "list<array<text>>" = (.ok t, after) ∧
      ∃ spec, TypeSpec.parse "list<array<text>>" = .ok spec ∧ ∀ i ≤ spec.depth, ∃ text u,
        spec.texts[i]? = some text ∧ t.chain[i]? = some u ∧ after.resolve text = (.ok u, after) ∧
        (i = spec.depth → after.lookup text = (.ok u, after)) := by
  intro actions ctx after
  obtain ⟨t, ht⟩ : ∃ t, ctx.resolve "list<array<text>>" = (.ok t, after) := ⟨_, rfl⟩
  exact ⟨t, ht, resolve_shares_members actions ht⟩

end Context

end ValueTypes
