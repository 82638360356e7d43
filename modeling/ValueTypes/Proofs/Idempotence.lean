/-
  Coercion is idempotent: what a type gives, it gives back as it is.

  The types are those that are put together from the built-in ones by attaching members, declaring
  records and letting null through (`Ty.Assembled`).  None of this adds a step or a fallback, so the
  only steps are the conversions of the built-in types, one for each at most, and never around a list
  or a record (`Ty.Converting`).

  A conversion leaves alone what it gave (`Coercion.apply_apply`), so a level is settled as soon as
  its body takes what it gave (`Envelope.build_idempotent`).  For a kind that is the check; for a
  list it is a matter of the items, one by one; and a record gives an object of the declared fields,
  which it finds there again (`Ty.buildFields_idempotent`).
-/
import ValueTypes.Proofs.Inhabitation
import ValueTypes.Proofs.Installation

namespace ValueTypes

/-! ## Conversions -/

/-- A conversion gives a value that it leaves alone, or refuses the value that it was given. -/
theorem Coercion.apply_cases (c : Coercion) (v : Value) :
    (∃ w, c.apply v = .ok w ∧ c.apply w = .ok w) ∨ c.apply v = c.refuse v := by
  cases c with
  | toText => cases v <;> exact .inl ⟨_, rfl, rfl⟩
  | toInteger =>
    cases v with
    | str | float =>
      rw [apply]
      split
      · exact .inl ⟨_, rfl, rfl⟩
      · exact .inr rfl
    | null | bool | int | arr | obj => exact .inl ⟨_, rfl, rfl⟩
  | toFloat =>
    cases v with
    | str =>
      rw [apply]
      split
      · exact .inl ⟨_, rfl, rfl⟩
      · exact .inr rfl
    | null | bool | int | float | arr | obj => exact .inl ⟨_, rfl, rfl⟩

/-- A conversion leaves alone what it gave. -/
theorem Coercion.apply_apply {c : Coercion} {v w : Value} (h : c.apply v = .ok w) :
    c.apply w = .ok w := by
  rcases apply_cases c v with ⟨u, hu, hagain⟩ | hrefuse
  · rw [hu] at h
    cases h
    exact hagain
  · rw [hrefuse] at h
    cases h

/-- A conversion fails with nothing but its refusal of the value. -/
theorem Coercion.eq_refuse_of_apply {c : Coercion} {v : Value} {e : TypeError}
    (h : c.apply v = .error e) : e = .invalidValue none v c.kind.name := by
  rcases apply_cases c v with ⟨u, hu, -⟩ | hrefuse
  · rw [hu] at h
    cases h
  · rw [hrefuse] at h
    cases h
    rfl

variable {σ : Type}

/-- No step, or one that converts to a kind. -/
inductive Step.Converting : Kind → List (Step σ) → Prop where
  | none (k : Kind) : Converting k []
  | one (serial : Nat) (c : Coercion) : Converting c.kind [⟨serial, .coerce c⟩]

/-- Steps that convert leave a converted value as it is. -/
theorem Step.Converting.runAll_runAll [StepMeaning σ] {k : Kind} {steps : List (Step σ)}
    (h : Converting k steps) {v w : Value} (hv : runAll steps v = .ok w) :
    runAll steps w = .ok w := by
  cases h with
  | none => rfl
  | one serial c =>
    rw [runAll_singleton] at hv ⊢
    exact Coercion.apply_apply hv

/-! ## Types of conversions -/

namespace Ty

/-- The types that are put together from built-in ones. -/
inductive Assembled : Ty σ → Prop where
  | builtin {ns : Builtins.Namespaces} {next : Nat} {key : String} {t : Ty σ}
    (h : (Builtins.install ns .empty next).1.bindings.get? key = some (.type t)) : Assembled t
  /-- A collection takes members. -/
  | member {t m u : Ty σ} {serial : Nat} (ht : Assembled t) (hm : Assembled m)
    (h : t.withMember serial m = .ok u) : Assembled u
  | record {r : Record σ} (h : ∀ f t, (f, t) ∈ r.fields → Assembled t) (serial : Nat) :
    Assembled (r.toTy serial)
  | optional {t : Ty σ} (h : Assembled t) (serial : Nat) : Assembled (t.optional serial)

/-- There are no fallbacks, and no steps but a conversion to a kind. -/
inductive Converting : Ty σ → Prop where
  | plain {e : Envelope σ} {k : Kind} (hsteps : Step.Converting k e.steps)
    (hnone : e.fallback = none) : Converting (.plain e k)
  | list {e : Envelope σ} {m : Ty σ} (h : e.Strict) (hm : Converting m) : Converting (.list e m)
  | record {e : Envelope σ} {schema : String} {fields : List (String × Ty σ)} (h : e.Strict)
    (hdistinct : (fields.map Prod.fst).Nodup)
    (hfields : ∀ f t, (f, t) ∈ fields → Converting t) : Converting (.record e schema fields)

theorem Converting.optional {t : Ty σ} (h : t.Converting) (serial : Nat) :
    (t.optional serial).Converting := by
  cases h with
  | plain hsteps hnone => exact .plain hsteps hnone
  | list h hm => exact .list ⟨h.steps, h.fallback⟩ hm
  | record h hdistinct hfields => exact .record ⟨h.steps, h.fallback⟩ hdistinct hfields

/-- The built-in types only convert. -/
theorem converting_of_builtin {key : String} {t : Ty σ} (h : Builtins.Builtin key t) :
    t.Converting := by
  cases h with
  | strict next k => exact .plain (.none k) rfl
  | optional next k => exact .plain (.none k) rfl
  | coercible next c => exact .plain (.one next c) rfl

/-- No type that converts is a collection, so members are attached to one without steps. -/
theorem Converting.withMember {t m u : Ty σ} {serial : Nat} (ht : t.Converting)
    (hm : m.Converting) (h : t.withMember serial m = .ok u) : u.Converting := by
  cases ht with
  | plain hsteps hnone =>
    rw [Ty.withMember] at h
    split at h
    · rename_i e k hcollection
      cases h
      generalize e.steps = steps at hsteps ⊢
      cases hsteps with
      | none => exact .list ⟨rfl, hnone⟩ hm
      | one serial c => cases c <;> cases hcollection
    · cases h
  | list => cases h
  | record => cases h

/-- What is assembled from built-in types only converts. -/
theorem Assembled.converting {t : Ty σ} (h : t.Assembled) : t.Converting := by
  induction h with
  | builtin h =>
    rcases Builtins.bound_of_install h with ⟨t, ht, hbuiltin⟩ | hbefore
    · cases ht
      exact converting_of_builtin hbuiltin
    · cases hbefore
  | member _ _ h iht ihm => exact iht.withMember ihm h
  | @record r _ serial ih => exact .record ⟨rfl, rfl⟩ r.distinct ih
  | optional _ serial ih => exact ih.optional serial

end Ty

/-! ## Building again -/

variable [StepMeaning σ]

/-- A level without a fallback gives back what it gave, if its steps and its body do. -/
theorem Envelope.build_idempotent {e : Envelope σ} (hnone : e.fallback = none)
    {body : Value → Outcome} {v w : Value} (hv : e.build body v = .ok w)
    (h : ∀ u, e.Passes v u → body u = .ok w →
      Step.runAll e.steps w = .ok w ∧ body w = .ok w) : e.build body w = .ok w := by
  have hbuild : ∀ x, e.build body x = e.attempt body x := by
    intro x
    rw [build, hnone]
    cases e.attempt body x <;> rfl
  rw [hbuild] at hv ⊢
  rcases e.trichotomy v with hnull | ⟨err, hrefuses⟩ | ⟨u, hpasses⟩
  · rw [attempt_null hnull] at hv
    cases hv
    exact attempt_null ⟨hnull.1, rfl⟩ body
  · rw [hrefuses.attempt] at hv
    cases hv
  · rw [hpasses.attempt] at hv
    obtain ⟨hrun, hbody⟩ := h u hpasses hv
    cases hnull : e.optional && w.isNull with
    | true =>
      -- what the body gave is null, which is let through the next time
      obtain ⟨hoptional, hw⟩ := Bool.and_eq_true_iff.1 hnull
      rw [attempt_null ⟨hoptional, hw⟩]
      cases w with
      | null => rfl
      | bool | int | float | str | arr | obj => cases hw
    | false =>
      have hagain : e.Passes w w := ⟨hnull, hrun⟩
      rw [hagain.attempt, hbody]

/-- A list of built items is built into itself. -/
theorem buildItems_idempotent {build : Value → Outcome}
    (h : ∀ v w, build v = .ok w → build w = .ok w) {vs ws : List Value} {i : Nat}
    (hvs : buildItems build i vs = .ok ws) : buildItems build i ws = .ok ws := by
  rw [buildItems_eq_ok_iff] at hvs ⊢
  induction hvs with
  | nil => exact .nil
  | cons hv _ ih => exact .cons (h _ _ hv) ih

namespace Ty

/-- A record finds the fields that it gave, and gives them back. -/
theorem buildFields_idempotent {fields : List (String × Ty σ)}
    (hdistinct : (fields.map Prod.fst).Nodup)
    (h : ∀ f t, (f, t) ∈ fields → ∀ v w, t.build v = .ok w → t.build w = .ok w)
    {input out : Entries Value} (hout : buildFields fields input = .ok out) :
    buildFields fields out = .ok out := by
  obtain ⟨hsorted, hrel⟩ := buildFields_eq_ok hout
  have hbuilds : ∀ f t, Entries.get? f fields = some t →
      ∃ w, out.get? f = some w ∧ t.build w = .ok w := by
    intro f t ht
    have hf := hrel f
    rw [ht] at hf
    generalize hw : out.get? f = o at hf
    cases hf with
    | some hb =>
      obtain ⟨v, -, hv⟩ := hb
      exact ⟨_, rfl, h f t (Entries.mem_of_get? ht) _ _ hv⟩
  obtain ⟨again, hagain⟩ : ∃ again, buildFields fields out = .ok again := by
    refine exists_buildFields_eq_ok_iff.2 ?_
    intro f t hmem
    obtain ⟨w, hw⟩ := hbuilds f t (Entries.get?_of_nodup hdistinct hmem)
    exact ⟨w, w, hw⟩
  obtain ⟨hsorted', hrel'⟩ := buildFields_eq_ok hagain
  have heq : again = out := by
    refine hsorted'.ext hsorted ?_
    intro f
    have hf := hrel f
    have hf' := hrel' f
    cases ht : Entries.get? f fields with
    | none =>
      rw [ht] at hf hf'
      generalize out.get? f = o at hf ⊢
      generalize again.get? f = o' at hf' ⊢
      cases hf
      cases hf'
      rfl
    | some t =>
      obtain ⟨w, hw, hb⟩ := hbuilds f t ht
      rw [ht] at hf'
      generalize again.get? f = o' at hf' ⊢
      cases hf' with
      | some hb' =>
        obtain ⟨v, hv, hb'⟩ := hb'
        rw [hw] at hv
        cases hv
        rw [hb] at hb'
        cases hb'
        exact hw.symm
  rw [hagain, heq]

/-- A type that only converts builds what it has built into itself. -/
theorem Converting.build_build {t : Ty σ} (ht : t.Converting) {v w : Value}
    (h : t.build v = .ok w) : t.build w = .ok w := by
  induction t generalizing v w with
  | plain e k =>
    cases ht with
    | plain hsteps hnone =>
      refine Envelope.build_idempotent hnone h ?_
      intro u hpasses hbody
      obtain ⟨rfl, hkind⟩ := Kind.check_eq_ok_iff.1 hbody
      exact ⟨hsteps.runAll_runAll hpasses.run, hbody⟩
  | list e m ih =>
    cases ht with
    | list hstrict hm =>
      refine Envelope.build_idempotent hstrict.fallback h ?_
      intro u _ (hbody : (Ty.list e m).body u = .ok w)
      refine ⟨by rw [hstrict.steps, Step.runAll], ?_⟩
      obtain ⟨items, ws, rfl, hitems, rfl⟩ := body_list_eq_ok_iff.1 hbody
      have hagain : buildItems m.build 0 ws = .ok ws :=
        buildItems_idempotent (fun x y hx => ih hm hx) hitems
      have hbody' : (Ty.list e m).body (.arr ws) = .ok (.arr ws) :=
        body_list_eq_ok_iff.2 ⟨ws, ws, rfl, hagain, rfl⟩
      exact hbody'
  | record e schema fields ih =>
    cases ht with
    | record hstrict hdistinct hfields =>
      refine Envelope.build_idempotent hstrict.fallback h ?_
      intro u _ (hbody : (Ty.record e schema fields).body u = .ok w)
      refine ⟨by rw [hstrict.steps, Step.runAll], ?_⟩
      obtain ⟨input, out, rfl, hout, rfl⟩ := body_record_eq_ok_iff.1 hbody
      have hagain : buildFields fields out = .ok out := buildFields_idempotent hdistinct
        (fun f u hmem x y hx => ih f u hmem (hfields f u hmem) hx) hout
      have hbody' : (Ty.record e schema fields).body (.obj out) = .ok (.obj out) :=
        body_record_eq_ok_iff.2 ⟨out, out, rfl, hagain, rfl⟩
      exact hbody'

/-- **Coercion is idempotent**: what a type that is put together from built-in ones gives, it gives
    back as it is. -/
theorem build_build_of_assembled {t : Ty σ} (ht : t.Assembled) {v w : Value}
    (h : t.build v = .ok w) : t.build w = .ok w := ht.converting.build_build h

/-- A record with a list of integers that are read from texts, and a list that may be missing. -/
theorem build_build_of_assembled_at_record :
    ∃ t : Ty Empty, t.Assembled ∧
      t.build (.obj [("n", .arr [.str " 7 ", .str "+8"]), ("x", .null), ("y", .int 1)])
        = .ok (.obj [("n", .arr [.int 7, .int 8]), ("x", .null)]) ∧
      t.build (.obj [("n", .arr [.int 7, .int 8]), ("x", .null)])
        = .ok (.obj [("n", .arr [.int 7, .int 8]), ("x", .null)]) := by
  let integer : Ty Empty := Builtins.coercible 18 .toInteger
  let array : Ty Empty := .nominal 12 .array
  have hinteger : integer.Assembled := by
    have hkey : (Builtins.install .all .empty 0).1.bindings.get? "coercible.integer"
        = some (.type integer) := by
      rw [(Builtins.install_eq _ _ _).1, Registry.get?_registerAll]
      rfl
    exact .builtin hkey
  have harray : array.Assembled := by
    have hkey : (Builtins.install .all .empty 0).1.bindings.get? "array"
        = some (.type array) := by
      rw [(Builtins.install_eq _ _ _).1, Registry.get?_registerAll]
      rfl
    exact .builtin hkey
  let integers : Ty Empty :=
    .list ⟨30, "array<coercible.integer>", [], false, none⟩ integer
  have hintegers : integers.Assembled := .member harray hinteger rfl
  let r : Record Empty := ⟨"Row", [("n", integers), ("x", integers.optional 31)], by decide⟩
  have hr : (r.toTy 32).Assembled := by
    refine .record ?_ 32
    intro f t hmem
    rcases List.mem_cons.1 hmem with heq | hmem
    · cases heq
      exact hintegers
    · cases List.mem_singleton.1 hmem
      exact .optional hintegers 31
  have hbuild : (r.toTy 32).build
      (.obj [("n", .arr [.str " 7 ", .str "+8"]), ("x", .null), ("y", .int 1)])
        = .ok (.obj [("n", .arr [.int 7, .int 8]), ("x", .null)]) := rfl
  exact ⟨r.toTy 32, hr, hbuild, build_build_of_assembled hr hbuild⟩

end Ty

end ValueTypes
