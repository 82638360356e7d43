/-
  What fallbacks do for a type: they save it from bad input, and they change nothing that is good.

  The first main result (`fallback_is_total`) is about types whose steps blame the input for
  whatever they refuse (`Ty.BlamesInput`).  Such a type fails with data errors only
  (`isData_of_build`): the error of a step is one by assumption, a value of the wrong kind is
  reported by one, a list only puts an index in front of the error of an item, and a record reports
  a field by one of its own.  A type with a fallback has the same steps, but no data error gets past
  a fallback, so it has no error left to fail with.

  The second (`success_survives_fallbacks`) compares two types that are alike but for the fallbacks
  attached to the levels of one of them (`Ty.Guarded`).  A value that is built without the fallbacks
  is built to the same with them.  The induction goes down both types at once, and it works because
  a fallback is looked at after a whole attempt only, and because the steps of a level run before
  its body, so no step ever sees what a fallback further inside would have changed.
-/
import ValueTypes.Proofs.Idempotence
import ValueTypes.Proofs.Recovery

namespace ValueTypes

variable {σ : Type}

/-- Every level of the type, down to the members and the fields, has an envelope of that sort. -/
inductive Ty.Everywhere (p : Envelope σ → Prop) : Ty σ → Prop where
  | plain {e : Envelope σ} {k : Kind} (h : p e) : Everywhere p (.plain e k)
  | list {e : Envelope σ} {m : Ty σ} (h : p e) (hm : Everywhere p m) : Everywhere p (.list e m)
  | record {e : Envelope σ} {schema : String} {fields : List (String × Ty σ)} (h : p e)
    (hfields : ∀ f t, (f, t) ∈ fields → Everywhere p t) : Everywhere p (.record e schema fields)

/-! ## Data errors only -/

section Blame

variable [StepMeaning σ]

/-- The step blames the input for whatever it refuses. -/
def Step.BlamesInput (s : Step σ) : Prop :=
  ∀ v e, s.op.apply v = .error e → e.isData = true

/-- The error of a chain is the error of one of its steps. -/
theorem Step.exists_of_runAll_eq_error {steps : List (Step σ)} {v : Value} {e : TypeError}
    (h : runAll steps v = .error e) : ∃ s ∈ steps, ∃ u, s.op.apply u = .error e := by
  induction steps generalizing v with
  | nil => cases h
  | cons s steps ih =>
    rw [runAll] at h
    cases hs : s.op.apply v with
    | error e' =>
      rw [hs] at h
      cases h
      exact ⟨s, List.mem_cons_self, v, hs⟩
    | ok w =>
      rw [hs] at h
      obtain ⟨s', hs', u, hu⟩ := ih h
      exact ⟨s', List.mem_cons_of_mem _ hs', u, hu⟩

/-- A kind blames the value that it refuses. -/
theorem Kind.isData_of_check {k : Kind} {v : Value} {e : TypeError} (h : k.check v = .error e) :
    e.isData = true := by
  obtain ⟨-, rfl⟩ := check_eq_error_iff.1 h
  rfl

namespace Ty

/-- At every level the steps blame the input for whatever they refuse. -/
def BlamesInput (t : Ty σ) : Prop := t.Everywhere fun e => ∀ s ∈ e.steps, s.BlamesInput

theorem FieldFails.isData {input : Entries Value} {f : String} {t : Ty σ} {e : TypeError}
    (h : FieldFails input f t e) : e.isData = true := by
  cases h <;> rfl

/-- A level fails with a data error if its body does. -/
theorem isData_of_body {t : Ty σ} {v : Value} {e : TypeError}
    (hsteps : ∀ s ∈ t.steps, s.BlamesInput)
    (hbody : ∀ u, t.body u = .error e → e.isData = true) (h : t.build v = .error e) :
    e.isData = true := by
  obtain ⟨-, href | ⟨u, -, hu⟩⟩ := build_eq_error_iff.1 h
  · obtain ⟨s, hs, u, hu⟩ := Step.exists_of_runAll_eq_error href.run
    exact hsteps s hs u e hu
  · exact hbody u hu

/-- What a type that blames the input fails with is a data error. -/
theorem isData_of_build {t : Ty σ} (ht : t.BlamesInput) {v : Value} {e : TypeError}
    (h : t.build v = .error e) : e.isData = true := by
  induction t generalizing v e with
  | plain env k =>
    cases ht with
    | plain hsteps =>
      refine isData_of_body hsteps ?_ h
      intro u hu
      exact Kind.isData_of_check hu
  | list env m ih =>
    cases ht with
    | list hsteps hm =>
      refine isData_of_body hsteps ?_ h
      intro u hu
      rcases body_list_eq_error_iff.1 hu with hkind | ⟨items, -, hitems⟩
      · exact Kind.isData_of_check hkind
      · -- the index that is put in front does not change the sort of the error
        obtain ⟨_, x, _, -, -, err, hx, rfl⟩ := buildItems_eq_error_iff.1 hitems
        rw [TypeError.isData_atKey]
        exact ih hm hx
  | record env schema fields ih =>
    cases ht with
    | record hsteps hfields =>
      refine isData_of_body hsteps ?_ h
      intro u hu
      rcases body_record_eq_error_iff.1 hu with hkind | ⟨input, -, hfail⟩
      · exact Kind.isData_of_check hkind
      · -- a field is reported by an error of the record, whatever its type says
        obtain ⟨_, p, _, -, -, hp⟩ := buildFields_eq_error_iff.1 hfail
        exact hp.isData

/-- A fallback changes no step. -/
theorem BlamesInput.withFallback {t : Ty σ} (h : t.BlamesInput) (serial : Nat) (w : Value) :
    (t.withFallback serial w).BlamesInput := by
  cases h with
  | plain hsteps => exact .plain hsteps
  | list hsteps hm => exact .list hsteps hm
  | record hsteps hfields => exact .record hsteps hfields

/-- A type with a fallback builds every value, if it blames the input for whatever it refuses. -/
theorem exists_build_withFallback {t : Ty σ} (h : t.BlamesInput) (serial : Nat) (w v : Value) :
    ∃ u, (t.withFallback serial w).build v = .ok u := by
  cases hv : (t.withFallback serial w).build v with
  | ok u => exact ⟨u, rfl⟩
  | error e =>
    have hdata : e.isData = true := isData_of_build (h.withFallback serial w) hv
    obtain ⟨hnone | hnot, -⟩ := build_eq_error_iff.1 hv
    · cases t <;> cases hnone
    · rw [hdata] at hnot
      cases hnot

/-- The steps of types that are put together from built-in ones are conversions. -/
theorem Converting.blamesInput {t : Ty σ} (h : t.Converting) : t.BlamesInput := by
  induction t with
  | plain e k =>
    cases h with
    | plain hsteps _ =>
      refine .plain ?_
      generalize e.steps = steps at hsteps
      cases hsteps with
      | none => exact nofun
      | one serial c =>
        intro s hs v err herr
        cases List.mem_singleton.1 hs
        rw [Coercion.eq_refuse_of_apply herr]
        rfl
  | list e m ih =>
    cases h with
    | list hstrict hm =>
      refine .list ?_ (ih hm)
      rw [hstrict.steps]
      exact nofun
  | record e schema fields ih =>
    cases h with
    | record hstrict _ hfields =>
      refine .record ?_ fun f t hmem => ih f t hmem (hfields f t hmem)
      rw [hstrict.steps]
      exact nofun

/-- **A fallback is total over data errors.**  Types that are put together from built-in ones blame
    the input for whatever they refuse.  A type that does so fails with data errors only, and with a
    fallback it builds every value: as it would without, where it has no other fallback and does not
    fail, and to the fallback where it does. -/
theorem fallback_is_total :
    (∀ t : Ty σ, t.Assembled → t.BlamesInput) ∧
    ∀ t : Ty σ, t.BlamesInput →
      (∀ v e, t.build v = .error e → e.isData = true) ∧
      ∀ (serial : Nat) (f v : Value),
        (∃ w, (t.withFallback serial f).build v = .ok w) ∧
        (t.fallback = none →
          (∀ w, t.build v = .ok w → (t.withFallback serial f).build v = .ok w) ∧
          ∀ e, t.build v = .error e → (t.withFallback serial f).build v = .ok f) := by
  refine ⟨fun t ht => ht.converting.blamesInput, ?_⟩
  intro t ht
  refine ⟨fun v e => isData_of_build ht, ?_⟩
  intro serial f v
  refine ⟨exists_build_withFallback ht serial f v, ?_⟩
  intro hnone
  constructor
  · intro w hw
    rw [withFallback_build hnone, hw]
    rfl
  · intro e he
    have hdata : e.isData = true := isData_of_build ht he
    rw [withFallback_build hnone, he, Outcome.recover]
    simp only [hdata, if_true]

end Ty

end Blame

/-! ## A step that blames the input -/

/-- The one step of a type of amounts. -/
inductive Amount where
  | positive

/-- The step refuses integers that are not positive. -/
instance : StepMeaning Amount where
  apply
    | .positive, .int n =>
      if 0 < n then .ok (.int n) else .error (.invalidValue none (.int n) "amount")
    | .positive, v => .ok v
  recode _ _ := .error .refused

/-- A list of orders, of which the second asks for nothing. -/
theorem Ty.fallback_is_total_at_orders :
    let amount : Ty Amount := (nominal 0 .integer).withStep 2 ⟨1, .custom .positive⟩
    let order : Ty Amount := record ⟨3, "Order", [], false, none⟩ "Order" [("amount", amount)]
    let orders : Ty Amount := list ⟨4, "array<order>", [], false, none⟩ order
    let few : Value := .arr [.obj [("amount", .int 2)]]
    let bad : Value := .arr [.obj [("amount", .int 2)], .obj [("amount", .int 0)]]
    orders.BlamesInput ∧
      (orders.withFallback 5 (.arr [])).build few = .ok few ∧
      (orders.withFallback 5 (.arr [])).build bad = .ok (.arr []) := by
  intro amount order orders few bad
  have hpositive : ∀ s ∈ amount.steps, s.BlamesInput := by
    intro s hs v e he
    cases List.mem_singleton.1 hs
    cases v with
    | int n =>
      have heq : (if 0 < n then .ok (.int n) else .error (.invalidValue none (.int n) "amount"))
          = (.error e : Outcome) := he
      split at heq <;> cases heq
      rfl
    | null | bool | float | str | arr | obj => cases he
  have horders : orders.BlamesInput := by
    refine .list nofun (.record nofun ?_)
    intro f t hmem
    cases List.mem_singleton.1 hmem
    exact .plain hpositive
  obtain ⟨-, htotal⟩ := fallback_is_total.2 orders horders
  obtain ⟨-, hfew⟩ := htotal 5 (.arr []) few
  obtain ⟨-, hbad⟩ := htotal 5 (.arr []) bad
  exact ⟨horders, (hfew rfl).1 few rfl, (hbad rfl).2 _ rfl⟩

/-! ## Fallbacks on some levels -/

/-- The second envelope is the first with a fallback, or with none. -/
structure Envelope.Guarded (e e' : Envelope σ) : Prop where
  name : e'.name = e.name
  steps : e'.steps = e.steps
  optional : e'.optional = e.optional

namespace Ty

mutual

/-- The second type is the first with fallbacks attached to some of its levels. -/
inductive Guarded : Ty σ → Ty σ → Prop where
  | plain {e e' : Envelope σ} {k : Kind} (h : e.Guarded e') : Guarded (.plain e k) (.plain e' k)
  | list {e e' : Envelope σ} {m m' : Ty σ} (h : e.Guarded e') (hm : Guarded m m') :
    Guarded (.list e m) (.list e' m')
  | record {e e' : Envelope σ} {schema : String} {fields fields' : List (String × Ty σ)}
    (h : e.Guarded e') (hfields : GuardedFields fields fields') :
    Guarded (.record e schema fields) (.record e' schema fields')

/-- Field by field the second type is the first with fallbacks attached. -/
inductive GuardedFields : List (String × Ty σ) → List (String × Ty σ) → Prop where
  | nil : GuardedFields [] []
  | cons {f : String} {t t' : Ty σ} {fields fields' : List (String × Ty σ)} (ht : Guarded t t')
    (h : GuardedFields fields fields') : GuardedFields ((f, t) :: fields) ((f, t') :: fields')

end

/-- A guarded type is still guarded with another fallback at the top. -/
theorem Guarded.withFallback {t t' : Ty σ} (h : t.Guarded t') (serial : Nat) (w : Value) :
    t.Guarded (t'.withFallback serial w) := by
  cases h with
  | plain h => exact .plain ⟨h.name, h.steps, h.optional⟩
  | list h hm => exact .list ⟨h.name, h.steps, h.optional⟩ hm
  | record h hfields => exact .record ⟨h.name, h.steps, h.optional⟩ hfields

end Ty

variable [StepMeaning σ]

/-- A level without a fallback keeps its successes with one, if its body keeps them. -/
theorem Envelope.Guarded.build_eq_ok {e e' : Envelope σ} (h : e.Guarded e')
    (hnone : e.fallback = none) {body body' : Value → Outcome}
    (hbody : ∀ u w, body u = .ok w → body' u = .ok w) {v w : Value}
    (hv : e.build body v = .ok w) : e'.build body' v = .ok w :=
  SameRun.build_eq_ok ⟨congrArg Step.runAll h.steps, h.optional⟩ hnone hbody hv

namespace Ty

/-- Fields that keep their successes one by one keep them together. -/
theorem GuardedFields.buildFields_eq_ok {fields fields' : List (String × Ty σ)}
    (h : GuardedFields fields fields')
    (hfields : ∀ f t, (f, t) ∈ fields → ∀ t', t.Guarded t' → t.KeptBy t')
    {input out : Entries Value} (hout : buildFields fields input = .ok out) :
    buildFields fields' input = .ok out := by
  have hkept : FieldsKeptBy fields fields' := by
    clear hout
    induction fields generalizing fields' with
    | nil =>
      cases h
      exact .nil
    | cons p fields ih =>
      obtain ⟨f, t⟩ := p
      cases h with
      | cons ht hrest =>
        have hhead : t.KeptBy _ := hfields f t List.mem_cons_self _ ht
        refine .cons ⟨rfl, hhead⟩ (ih hrest ?_)
        intro g u hmem
        exact hfields g u (List.mem_cons_of_mem _ hmem)
  exact hkept.buildFields_eq_ok hout

/-- **Fallbacks never change a genuine success.**  What a type without any fallback makes of a
    value, it makes of it with fallbacks attached to any of its levels. -/
theorem success_survives_fallbacks {t t' : Ty σ} (hnone : t.Everywhere fun e => e.fallback = none)
    (h : t.Guarded t') {v w : Value} (hv : t.build v = .ok w) : t'.build v = .ok w := by
  induction t generalizing t' v w with
  | plain e k =>
    cases hnone with
    | plain hnone =>
      cases h with
      | plain h => exact h.build_eq_ok hnone (fun _ _ hu => hu) hv
  | list e m ih =>
    cases hnone with
    | list hnone hm =>
      cases h with
      | @list _ e' _ m' h hguarded =>
        have hbody : ∀ u w, (Ty.list e m).body u = .ok w → (Ty.list e' m').body u = .ok w := by
          intro u w hu
          obtain ⟨items, ws, rfl, hitems, rfl⟩ := body_list_eq_ok_iff.1 hu
          refine body_list_eq_ok_iff.2 ⟨items, ws, rfl, ?_, rfl⟩
          rw [buildItems_eq_ok_iff] at hitems ⊢
          exact hitems.imp fun x y hx => ih hm hguarded hx
        exact h.build_eq_ok hnone hbody hv
  | record e schema fields ih =>
    cases hnone with
    | record hnone hfields =>
      cases h with
      | @record _ e' _ _ fields' h hguarded =>
        have hkept : ∀ f u, (f, u) ∈ fields → ∀ u', u.Guarded u' → ∀ x y, u.build x = .ok y →
            u'.build x = .ok y :=
          fun f u hmem u' hu' x y hx => ih f u hmem (hfields f u hmem) hu' hx
        have hbody : ∀ u w, (Ty.record e schema fields).body u = .ok w →
            (Ty.record e' schema fields').body u = .ok w := by
          intro u w hu
          obtain ⟨input, out, rfl, hout, rfl⟩ := body_record_eq_ok_iff.1 hu
          exact body_record_eq_ok_iff.2
            ⟨input, out, rfl, hguarded.buildFields_eq_ok hkept hout, rfl⟩
        exact h.build_eq_ok hnone hbody hv

/-- A list of points with a fallback of its own, for the points and for one of their fields. -/
theorem success_survives_fallbacks_at_points :
    let x : Ty Empty := nominal 0 .integer
    let y : Ty Empty := (nominal 1 .integer).optional 2
    let point : Ty Empty := record ⟨3, "Point", [], false, none⟩ "Point" [("x", x), ("y", y)]
    let points : Ty Empty := list ⟨4, "array<point>", [], false, none⟩ point
    let point' : Ty Empty := (record ⟨3, "Point", [], false, none⟩ "Point"
      [("x", x.withFallback 5 (.int 0)), ("y", y)]).withFallback 6 .null
    let points' : Ty Empty :=
      (list ⟨4, "array<point>", [], false, none⟩ point').withFallback 7 (.arr [])
    let v : Value := .arr [.obj [("x", .int 1), ("y", .null)], .obj [("x", .int 2), ("y", .int 3)]]
    points.Everywhere (fun e => e.fallback = none) ∧ points.Guarded points' ∧
      points.build v = .ok v ∧ points'.build v = .ok v := by
  intro x y point points point' points' v
  have hnone : points.Everywhere fun e => e.fallback = none := by
    refine .list rfl (.record rfl ?_)
    intro f t hmem
    simp only [List.mem_cons, List.not_mem_nil, or_false] at hmem
    rcases hmem with hx | hy
    · cases hx
      exact .plain rfl
    · cases hy
      exact .plain rfl
  have hbare : x.Guarded x := .plain ⟨rfl, rfl, rfl⟩
  have hx : x.Guarded (x.withFallback 5 (.int 0)) := hbare.withFallback 5 (.int 0)
  have hfields : GuardedFields [("x", x), ("y", y)] [("x", x.withFallback 5 (.int 0)), ("y", y)] :=
    .cons hx (.cons (.plain ⟨rfl, rfl, rfl⟩) .nil)
  have hpoint : point.Guarded point' :=
    Guarded.withFallback (.record ⟨rfl, rfl, rfl⟩ hfields) 6 .null
  have hguarded : points.Guarded points' :=
    Guarded.withFallback (.list ⟨rfl, rfl, rfl⟩ hpoint) 7 (.arr [])
  have hv : points.build v = .ok v := rfl
  exact ⟨hnone, hguarded, hv, success_survives_fallbacks hnone hguarded hv⟩

end Ty

end ValueTypes
