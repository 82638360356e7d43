/-
  What building gives, level by level.

  `Ty.build` is recursion on a type whose fields stand in a list, so facts about it are proved by
  `Ty.ind`, which hands down a hypothesis for the member of a list and for each field of a record.
  At each level the type is its body inside its envelope (`Ty.build_eq`), and four facts are all
  that is needed of the two:

  * what comes out of an envelope is its fallback, a null that was let through, or came out of the
    body, and an error comes out of it if no fallback takes it (`Envelope.build_eq_ok`,
    `Envelope.build_eq_error_iff`);
  * a body gives what is of the kind of its type (`Kind.check_eq_ok_iff`, `body_list_eq_ok_iff`,
    `body_record_eq_ok_iff`);
  * items are built one by one (`buildItems_eq_ok_iff`), and the first failure gets its index
    (`buildItems_eq_error_iff`);
  * fields are built if each of them is (`exists_buildFields_eq_ok_iff`), each by its own type
    (`buildFields_eq_ok`), and the first that is missing or fails is reported
    (`buildFields_eq_error_iff`).

  Two types are compared level by level too.  A type keeps the successes of another (`Ty.KeptBy`) if
  the levels run alike and the members or the fields keep theirs (`keptBy_plain`, `keptBy_list`,
  `keptBy_record`), provided that the first has no fallback, which would take its failures for
  successes.
-/
import Mathlib.Data.List.Forall2
import ValueTypes.Record

namespace ValueTypes

/-- Look-up finds exactly the keys of the pairs. -/
theorem Entries.mem_keys_iff {α : Type} {k : String} {es : Entries α} :
    k ∈ es.map Prod.fst ↔ (es.get? k).isSome = true := by
  induction es with
  | nil => simp [get?]
  | cons a es ih =>
    obtain ⟨k', v⟩ := a
    rw [List.map_cons, List.mem_cons, ih, get?]
    by_cases hk : k = k'
    · simp [hk]
    · simp [hk]

/-- Where no key repeats, look-up finds every pair. -/
theorem Entries.get?_of_nodup {α : Type} {k : String} {v : α} {es : Entries α}
    (hdistinct : (es.map Prod.fst).Nodup) (h : (k, v) ∈ es) : es.get? k = some v := by
  induction es with
  | nil => cases h
  | cons e es ih =>
    obtain ⟨hfresh, hdistinct⟩ := List.nodup_cons.1 hdistinct
    rw [get?]
    rcases List.mem_cons.1 h with rfl | h
    · rw [if_pos rfl]
    · have hne : k ≠ e.1 := by
        rintro rfl
        exact hfresh (List.mem_map.2 ⟨_, h, rfl⟩)
      rw [if_neg hne]
      exact ih hdistinct h

theorem map_eq_ok_iff {ε α β : Type} {f : α → β} {x : Except ε α} {b : β} :
    x.map f = .ok b ↔ ∃ a, x = .ok a ∧ b = f a := by
  cases x with
  | error e => simp [Except.map]
  | ok a => simp [Except.map, eq_comm]

theorem map_eq_error_iff {ε α β : Type} {f : α → β} {x : Except ε α} {e : ε} :
    x.map f = .error e ↔ x = .error e := by
  cases x with
  | error e' => simp [Except.map]
  | ok a => simp [Except.map]

/-- A first element of a list, after elements that pass, is its head or stands in its tail after a
    head that passes. -/
theorem exists_first_cons_iff {α : Type} {passes : α → Prop} {q : List α → α → Prop} {a : α}
    {as : List α} :
    (∃ before x after, a :: as = before ++ x :: after ∧ (∀ y ∈ before, passes y) ∧ q before x) ↔
      q [] a ∨ passes a ∧
        ∃ before x after, as = before ++ x :: after ∧ (∀ y ∈ before, passes y) ∧
          q (a :: before) x := by
  constructor
  · rintro ⟨before, x, after, hsplit, hbefore, hq⟩
    cases before with
    | nil =>
      cases hsplit
      exact .inl hq
    | cons b before =>
      cases hsplit
      refine .inr ⟨hbefore a List.mem_cons_self, before, x, after, rfl, ?_, hq⟩
      intro y hy
      exact hbefore y (List.mem_cons_of_mem _ hy)
  · rintro (hq | ⟨ha, before, x, after, rfl, hbefore, hq⟩)
    · exact ⟨[], a, as, rfl, nofun, hq⟩
    · refine ⟨a :: before, x, after, rfl, ?_, hq⟩
      intro y hy
      rcases List.mem_cons.1 hy with rfl | hy
      · exact ha
      · exact hbefore y hy

/-! ## Envelopes -/

theorem Outcome.recover_none (o : Outcome) : o.recover none = o := by cases o <;> rfl

/-- What comes out of a recovery is the fallback or what went in. -/
theorem Outcome.recover_eq_ok {fallback : Option Value} {o : Outcome} {w : Value}
    (h : o.recover fallback = .ok w) : fallback = some w ∨ o = .ok w := by
  cases o with
  | ok v => exact .inr h
  | error e =>
    cases fallback with
    | none => cases h
    | some v =>
      rw [recover] at h
      split at h
      · cases h
        exact .inl rfl
      · cases h

/-- An error gets past a fallback if there is none, or if the error is no data error. -/
theorem Outcome.recover_eq_error_iff {fallback : Option Value} {o : Outcome} {e : TypeError} :
    o.recover fallback = .error e ↔ o = .error e ∧ (fallback = none ∨ e.isData = false) := by
  cases o with
  | ok v => simp [recover]
  | error e' =>
    cases fallback with
    | none => simp [recover]
    | some v =>
      cases hdata : e'.isData with
      | true =>
        simp only [recover, hdata, if_true]
        constructor
        · intro h
          cases h
        · rintro ⟨h, hnone | hnot⟩
          · cases hnone
          · cases h
            rw [hdata] at hnot
            cases hnot
      | false =>
        simp only [recover, hdata]
        constructor
        · intro h
          cases h
          exact ⟨rfl, .inr hdata⟩
        · rintro ⟨h, -⟩
          exact h

/-- A chain of one step does what the step does. -/
theorem Step.runAll_singleton {σ : Type} [StepMeaning σ] (s : Step σ) (v : Value) :
    runAll [s] v = s.op.apply v := by
  rw [runAll]
  cases s.op.apply v <;> rfl

namespace Envelope

variable {σ : Type} [StepMeaning σ]

/-- The body gets `w`: the value is no null that is let through, and the steps make `w` of it. -/
structure Passes (e : Envelope σ) (v w : Value) : Prop where
  kept : (e.optional && v.isNull) = false
  run : Step.runAll e.steps v = .ok w

/-- A step fails, on a value that is no null that is let through. -/
structure Refuses (e : Envelope σ) (v : Value) (err : TypeError) : Prop where
  kept : (e.optional && v.isNull) = false
  run : Step.runAll e.steps v = .error err

/-- An envelope lets null through, refuses the value in a step, or passes a value on to the body. -/
theorem trichotomy (e : Envelope σ) (v : Value) :
    (e.optional = true ∧ v.isNull = true) ∨ (∃ err, e.Refuses v err) ∨ ∃ w, e.Passes v w := by
  cases hnull : e.optional && v.isNull with
  | true => exact .inl (Bool.and_eq_true_iff.1 hnull)
  | false =>
    cases hrun : Step.runAll e.steps v with
    | error err => exact .inr (.inl ⟨err, hnull, hrun⟩)
    | ok w => exact .inr (.inr ⟨w, hnull, hrun⟩)

variable {e : Envelope σ} {v w : Value} {err : TypeError}

theorem attempt_null (h : e.optional = true ∧ v.isNull = true) (body : Value → Outcome) :
    e.attempt body v = .ok .null := by
  rw [attempt, h.1, h.2]
  rfl

/-- A value that a step refuses never reaches the body. -/
theorem Refuses.attempt (h : e.Refuses v err) (body : Value → Outcome) :
    e.attempt body v = .error err := by
  rw [Envelope.attempt, h.kept, h.run]
  rfl

/-- A value that the steps pass on is left to the body. -/
theorem Passes.attempt (h : e.Passes v w) (body : Value → Outcome) :
    e.attempt body v = body w := by
  rw [Envelope.attempt, h.kept, h.run]
  rfl

/-- Without steps the value itself gets to the body. -/
theorem Passes.eq_of_steps (h : e.Passes v w) (hsteps : e.steps = []) : w = v := by
  have hrun := h.run
  rw [hsteps] at hrun
  cases hrun
  rfl

/-- Without steps none fails. -/
theorem Refuses.steps_ne_nil (h : e.Refuses v err) : e.steps ≠ [] := by
  intro hsteps
  have hrun := h.run
  rw [hsteps] at hrun
  cases hrun

/-- What an envelope gives is its fallback, a null that was let through, or what the body gave. -/
theorem build_eq_ok {body : Value → Outcome} (h : e.build body v = .ok w) :
    e.fallback = some w ∨ (e.optional = true ∧ w = .null) ∨ ∃ u, body u = .ok w := by
  rcases Outcome.recover_eq_ok h with hfb | hatt
  · exact .inl hfb
  · rcases e.trichotomy v with hnull | ⟨err, href⟩ | ⟨u, hpass⟩
    · rw [attempt_null hnull] at hatt
      cases hatt
      exact .inr (.inl ⟨hnull.1, rfl⟩)
    · rw [href.attempt] at hatt
      cases hatt
    · rw [hpass.attempt] at hatt
      exact .inr (.inr ⟨u, hatt⟩)

/-- An envelope fails if a step or the body does, with an error that no fallback takes. -/
theorem build_eq_error_iff {body : Value → Outcome} :
    e.build body v = .error err ↔
      (e.fallback = none ∨ err.isData = false) ∧
        (e.Refuses v err ∨ ∃ u, e.Passes v u ∧ body u = .error err) := by
  rw [build, Outcome.recover_eq_error_iff, and_comm]
  refine and_congr_right fun _ => ⟨?_, ?_⟩
  · intro hatt
    rcases e.trichotomy v with hnull | ⟨err', href⟩ | ⟨u, hpass⟩
    · rw [attempt_null hnull] at hatt
      cases hatt
    · rw [href.attempt] at hatt
      cases hatt
      exact .inl href
    · rw [hpass.attempt] at hatt
      exact .inr ⟨u, hpass, hatt⟩
  · rintro (href | ⟨u, hpass, hbody⟩)
    · exact href.attempt body
    · rw [hpass.attempt, hbody]

/-- The steps of the second envelope do what those of the first do, and it lets the same nulls
    through. -/
structure SameRun (e e' : Envelope σ) : Prop where
  run : Step.runAll e'.steps = Step.runAll e.steps
  optional : e'.optional = e.optional

/-- A level without a fallback keeps its successes in every envelope that runs as its own does, if
    its body keeps them. -/
theorem SameRun.build_eq_ok {e' : Envelope σ} (h : e.SameRun e') (hnone : e.fallback = none)
    {body body' : Value → Outcome} (hbody : ∀ u w, body u = .ok w → body' u = .ok w)
    (hv : e.build body v = .ok w) : e'.build body' v = .ok w := by
  have hattempt : e.attempt body v = .ok w := by
    rw [build, hnone, Outcome.recover_none] at hv
    exact hv
  -- both levels let the same nulls through and hand the same value to their bodies
  have hattempt' : e'.attempt body' v = .ok w := by
    rcases e.trichotomy v with hnull | ⟨err, hrefuses⟩ | ⟨u, hpasses⟩
    · have hnull' : e'.optional = true ∧ v.isNull = true := by
        rw [h.optional]
        exact hnull
      rw [attempt_null hnull] at hattempt
      rw [attempt_null hnull']
      exact hattempt
    · rw [hrefuses.attempt] at hattempt
      cases hattempt
    · have hpasses' : e'.Passes v u := by
        refine ⟨?_, ?_⟩
        · rw [h.optional]
          exact hpasses.kept
        · rw [h.run]
          exact hpasses.run
      rw [hpasses.attempt] at hattempt
      rw [hpasses'.attempt]
      exact hbody u w hattempt
  rw [build, hattempt']
  rfl

end Envelope

/-- A check gives the value itself. -/
theorem Kind.check_eq_ok_iff {k : Kind} {v w : Value} :
    k.check v = .ok w ↔ w = v ∧ k.accepts v = true := by
  rw [check]
  cases k.accepts v with
  | true => simp [eq_comm]
  | false => simp

/-- A check fails with the value itself and the name of the kind. -/
theorem Kind.check_eq_error_iff {k : Kind} {v : Value} {e : TypeError} :
    k.check v = .error e ↔ k.accepts v = false ∧ e = .invalidValue none v k.name := by
  rw [check]
  cases k.accepts v with
  | true => simp
  | false => simp [eq_comm]

/-! ## Items -/

/-- Items are built one by one. -/
theorem buildItems_eq_ok_iff {build : Value → Outcome} : ∀ {i : Nat} {vs ws : List Value},
    buildItems build i vs = .ok ws ↔ List.Forall₂ (fun v w => build v = .ok w) vs ws := by
  intro i vs
  induction vs generalizing i with
  | nil =>
    intro ws
    rw [List.forall₂_nil_left_iff, buildItems, Except.ok.injEq, eq_comm]
  | cons v vs ih =>
    intro ws
    rw [List.forall₂_cons_left_iff, buildItems]
    cases hv : build v with
    | error e => simp
    | ok w =>
      cases hvs : buildItems build (i + 1) vs with
      | error e =>
        constructor
        · intro h
          cases h
        · rintro ⟨w', ws', -, hrest, -⟩
          rw [ih.2 hrest] at hvs
          cases hvs
      | ok ws' =>
        constructor
        · intro h
          cases h
          exact ⟨w, ws', rfl, ih.1 hvs, rfl⟩
        · rintro ⟨w', ws'', hw, hrest, rfl⟩
          cases hw
          rw [ih.2 hrest] at hvs
          cases hvs
          rfl

/-- The first item that fails is reported under its index. -/
theorem buildItems_eq_error_iff {build : Value → Outcome} {err : TypeError} :
    ∀ {i : Nat} {vs : List Value}, buildItems build i vs = .error err ↔
      ∃ before v after, vs = before ++ v :: after ∧ (∀ u ∈ before, ∃ w, build u = .ok w) ∧
        ∃ e, build v = .error e ∧ err = e.atKey (indexKey (i + before.length)) := by
  intro i vs
  induction vs generalizing i with
  | nil => simp [buildItems]
  | cons v vs ih =>
    rw [buildItems, exists_first_cons_iff (q := fun before v =>
      ∃ e, build v = .error e ∧ err = e.atKey (indexKey (i + before.length)))]
    cases hv : build v with
    | error e => simp [eq_comm]
    | ok w =>
      -- the index of an item of the tail counts from `i + 1`
      have hindex : ∀ before : List Value,
          i + (v :: before).length = i + 1 + before.length := by
        intro before
        rw [List.length_cons]
        omega
      simp only [hindex, ← ih]
      cases buildItems build (i + 1) vs <;> simp

/-! ## Fields -/

namespace Ty

variable {σ : Type} [StepMeaning σ]

/-- The field is there, and its type makes `w` of its value. -/
def FieldBuilds (input : Entries Value) (f : String) (t : Ty σ) (w : Value) : Prop :=
  ∃ v, input.get? f = some v ∧ t.build v = .ok w

/-- The field is missing, or its type refuses its value. -/
inductive FieldFails (input : Entries Value) (f : String) (t : Ty σ) : TypeError → Prop where
  | missing (h : input.get? f = none) : FieldFails input f t (.missingField f)
  | refused {v : Value} {e : TypeError} (hv : input.get? f = some v) (he : t.build v = .error e) :
    FieldFails input f t (.invalidField f v t.name e)

variable {input : Entries Value} {f : String} {t : Ty σ} {w : Value} {err : TypeError}

/-- A declared field is built or fails. -/
theorem fieldBuilds_or_fails (input : Entries Value) (f : String) (t : Ty σ) :
    (∃ w, FieldBuilds input f t w) ∨ ∃ err, FieldFails input f t err := by
  cases hv : input.get? f with
  | none => exact .inr ⟨_, .missing hv⟩
  | some v =>
    cases hw : t.build v with
    | error e => exact .inr ⟨_, .refused hv hw⟩
    | ok w => exact .inl ⟨w, v, hv, hw⟩

/-- A field that is built goes in front of the others. -/
theorem buildFields_of_builds (h : FieldBuilds input f t w) (fields : List (String × Ty σ)) :
    buildFields ((f, t) :: fields) input = (buildFields fields input).map (·.insert f w) := by
  obtain ⟨v, hv, hw⟩ := h
  rw [buildFields, hv]
  simp only [hw]
  cases buildFields fields input <;> rfl

/-- A field that fails is the end of it. -/
theorem buildFields_of_fails (h : FieldFails input f t err) (fields : List (String × Ty σ)) :
    buildFields ((f, t) :: fields) input = .error err := by
  cases h with
  | missing h => rw [buildFields, h]
  | refused hv he =>
    rw [buildFields, hv]
    simp only [he]

/-- A field fails in one way only. -/
theorem FieldFails.unique {err' : TypeError} (h : FieldFails input f t err)
    (h' : FieldFails input f t err') : err = err' :=
  Except.error.inj ((buildFields_of_fails h []).symm.trans (buildFields_of_fails h' []))

theorem FieldFails.not_builds (h : FieldFails input f t err) : ¬FieldBuilds input f t w := by
  intro hb
  cases (buildFields_of_fails h []).symm.trans (buildFields_of_builds hb [])

/-- The fields are built exactly if each of them is. -/
theorem exists_buildFields_eq_ok_iff {fields : List (String × Ty σ)} {input : Entries Value} :
    (∃ out, buildFields fields input = .ok out) ↔
      ∀ f t, (f, t) ∈ fields → ∃ w, FieldBuilds input f t w := by
  induction fields with
  | nil => simp [buildFields]
  | cons p fields ih =>
    obtain ⟨f, t⟩ := p
    rcases fieldBuilds_or_fails input f t with ⟨w, hb⟩ | ⟨err, hf⟩
    · rw [buildFields_of_builds hb]
      constructor
      · rintro ⟨out, hout⟩ g u hmem
        obtain ⟨rest, hrest, -⟩ := map_eq_ok_iff.1 hout
        rcases List.mem_cons.1 hmem with heq | hmem
        · cases heq
          exact ⟨w, hb⟩
        · exact ih.1 ⟨rest, hrest⟩ g u hmem
      · intro hall
        obtain ⟨rest, hrest⟩ := ih.2 fun g u hmem => hall g u (List.mem_cons_of_mem _ hmem)
        exact ⟨_, map_eq_ok_iff.2 ⟨rest, hrest, rfl⟩⟩
    · rw [buildFields_of_fails hf]
      constructor
      · rintro ⟨out, hout⟩
        cases hout
      · intro hall
        obtain ⟨w, hb⟩ := hall f t List.mem_cons_self
        exact absurd hb hf.not_builds

/-- What is built of an object holds the declared fields and no others, each built by the type of
    its first declaration. -/
theorem buildFields_eq_ok {fields : List (String × Ty σ)} : ∀ {out : Entries Value},
    buildFields fields input = .ok out →
      out.Sorted ∧
        ∀ f, Option.Rel (FieldBuilds input f) (Entries.get? f fields) (out.get? f) := by
  induction fields with
  | nil =>
    intro out h
    cases h
    exact ⟨.nil, fun _ => .none⟩
  | cons field fields ih =>
    intro out h
    obtain ⟨f, t⟩ := field
    rcases fieldBuilds_or_fails input f t with ⟨w, hb⟩ | ⟨err, hf⟩
    · rw [buildFields_of_builds hb] at h
      obtain ⟨rest, hrest, rfl⟩ := map_eq_ok_iff.1 h
      obtain ⟨hsorted, hrel⟩ := ih hrest
      refine ⟨hsorted.insert f w, ?_⟩
      intro g
      rw [Entries.get?, Entries.get?_insert]
      by_cases hg : g = f
      · subst hg
        rw [if_pos rfl, if_pos rfl]
        exact .some hb
      · rw [if_neg hg, if_neg hg]
        exact hrel g
    · rw [buildFields_of_fails hf] at h
      cases h

/-- What is built of an object has the declared fields and no others. -/
theorem buildFields_keys {fields : List (String × Ty σ)} {out : Entries Value}
    (h : buildFields fields input = .ok out) (f : String) :
    f ∈ out.map Prod.fst ↔ f ∈ fields.map Prod.fst := by
  have hf := (buildFields_eq_ok h).2 f
  rw [Entries.mem_keys_iff, Entries.mem_keys_iff]
  generalize Entries.get? f fields = a at hf
  generalize out.get? f = b at hf
  cases hf with
  | none => rfl
  | some _ => rfl

/-- Only the declared fields of an object are read. -/
theorem buildFields_congr {fields : List (String × Ty σ)} {input' : Entries Value}
    (h : ∀ f ∈ fields.map Prod.fst, input.get? f = input'.get? f) :
    buildFields fields input = buildFields fields input' := by
  induction fields with
  | nil => rfl
  | cons p fields ih =>
    obtain ⟨f, t⟩ := p
    rw [List.map_cons, List.forall_mem_cons] at h
    rw [buildFields, buildFields, h.1, ih h.2]

/-- The first declared field that is missing or refused is reported. -/
theorem buildFields_eq_error_iff {fields : List (String × Ty σ)} :
    buildFields fields input = .error err ↔
      ∃ before p after, fields = before ++ p :: after ∧
        (∀ p ∈ before, ∃ w, FieldBuilds input p.1 p.2 w) ∧ FieldFails input p.1 p.2 err := by
  induction fields with
  | nil => simp [buildFields]
  | cons field fields ih =>
    obtain ⟨f, t⟩ := field
    rw [exists_first_cons_iff (q := fun _ (p : String × Ty σ) => FieldFails input p.1 p.2 err),
      ← ih]
    rcases fieldBuilds_or_fails input f t with ⟨w, hb⟩ | ⟨err', hf⟩
    · rw [buildFields_of_builds hb, map_eq_error_iff]
      constructor
      · intro hrest
        exact .inr ⟨⟨w, hb⟩, hrest⟩
      · rintro (hf | ⟨-, hrest⟩)
        · exact absurd hb hf.not_builds
        · exact hrest
    · rw [buildFields_of_fails hf]
      constructor
      · intro h
        cases h
        exact .inl hf
      · rintro (hf' | ⟨⟨w, hb⟩, -⟩)
        · rw [hf.unique hf']
        · exact absurd hb hf.not_builds

end Ty

/-! ## Types -/

namespace Ty

variable {σ : Type}

/-- Induction on a type, through the fields of records. -/
@[elab_as_elim, induction_eliminator]
theorem ind {motive : Ty σ → Prop} (plain : ∀ e k, motive (.plain e k))
    (list : ∀ e m, motive m → motive (.list e m))
    (record : ∀ e schema fields, (∀ f t, (f, t) ∈ fields → motive t) →
      motive (.record e schema fields)) : ∀ t, motive t := by
  intro t
  refine @Ty.rec σ motive (fun fields => ∀ f t, (f, t) ∈ fields → motive t)
    (fun p => motive p.2) plain list record ?_ ?_ ?_ t
  · intro f t h
    cases h
  · intro p fields hp hfields f t h
    rcases List.mem_cons.1 h with rfl | h
    · exact hp
    · exact hfields f t h
  · intro f t h
    exact h

variable [StepMeaning σ] {e : Envelope σ} {u w : Value} {err : TypeError}

/-- With another envelope a type has the same body. -/
theorem build_withEnvelope (t : Ty σ) (e : Envelope σ) (v : Value) :
    (t.withEnvelope e).build v = e.build t.body v := by
  cases t <;> rfl

/-- A type fails if a step or its body does, with an error that no fallback takes. -/
theorem build_eq_error_iff {t : Ty σ} {v : Value} :
    t.build v = .error err ↔ (t.fallback = none ∨ err.isData = false) ∧
      (t.envelope.Refuses v err ∨ ∃ u, t.envelope.Passes v u ∧ t.body u = .error err) := by
  rw [build_eq, Envelope.build_eq_error_iff]
  rfl

/-- The body of a list builds the items of a list. -/
theorem body_list_eq_ok_iff {m : Ty σ} : (list e m).body u = .ok w ↔
    ∃ items ws, u = .arr items ∧ buildItems m.build 0 items = .ok ws ∧ w = .arr ws := by
  cases u with
  | arr items => simp [body, map_eq_ok_iff]
  | null | bool | int | float | str | obj => simp [body, Kind.check, Kind.accepts]

/-- The body of a list fails on what is no list, and on an item. -/
theorem body_list_eq_error_iff {m : Ty σ} : (list e m).body u = .error err ↔
    Kind.array.check u = .error err ∨
      ∃ items, u = .arr items ∧ buildItems m.build 0 items = .error err := by
  cases u with
  | arr items => simp [body, map_eq_error_iff, Kind.check, Kind.accepts]
  | null | bool | int | float | str | obj => simp [body]

/-- The body of a record builds the declared fields of an object. -/
theorem body_record_eq_ok_iff {schema : String} {fields : List (String × Ty σ)} :
    (record e schema fields).body u = .ok w ↔
      ∃ input out, u = .obj input ∧ buildFields fields input = .ok out ∧ w = .obj out := by
  cases u with
  | obj input => simp [body, map_eq_ok_iff]
  | null | bool | int | float | str | arr => simp [body, Kind.check, Kind.accepts]

/-- The body of a record fails on what is no object, and on a field. -/
theorem body_record_eq_error_iff {schema : String} {fields : List (String × Ty σ)} :
    (record e schema fields).body u = .error err ↔
      Kind.hash.check u = .error err ∨
        ∃ input, u = .obj input ∧ buildFields fields input = .error err := by
  cases u with
  | obj input => simp [body, map_eq_error_iff, Kind.check, Kind.accepts]
  | null | bool | int | float | str | arr => simp [body]

/-! ## Types that keep the successes of others -/

/-- What the first type makes of a value, the second makes of it as well. -/
def KeptBy (t t' : Ty σ) : Prop := ∀ v w, t.build v = .ok w → t'.build v = .ok w

/-- Fields under the same names, each of a type that keeps the successes of its counterpart. -/
abbrev FieldsKeptBy (fields fields' : List (String × Ty σ)) : Prop :=
  List.Forall₂ (fun p p' => p.1 = p'.1 ∧ p.2.KeptBy p'.2) fields fields'

/-- Fields that keep successes one by one keep them together. -/
theorem FieldsKeptBy.buildFields_eq_ok {fields fields' : List (String × Ty σ)}
    (h : FieldsKeptBy fields fields') {input out : Entries Value}
    (hout : buildFields fields input = .ok out) : buildFields fields' input = .ok out := by
  induction h generalizing out with
  | nil => exact hout
  | @cons p p' fields fields' hp _ ih =>
    obtain ⟨f, t⟩ := p
    obtain ⟨f', t'⟩ := p'
    obtain ⟨rfl, hkept⟩ : f = f' ∧ t.KeptBy t' := hp
    rcases fieldBuilds_or_fails input f t with ⟨w, hb⟩ | ⟨err, hf⟩
    · have hb' : FieldBuilds input f t' w := by
        obtain ⟨v, hv, hw⟩ := hb
        exact ⟨v, hv, hkept v w hw⟩
      rw [buildFields_of_builds hb] at hout
      rw [buildFields_of_builds hb']
      obtain ⟨rest, hrest, rfl⟩ := map_eq_ok_iff.1 hout
      rw [ih hrest]
      rfl
    · rw [buildFields_of_fails hf] at hout
      cases hout

section Levels

variable {e' : Envelope σ} (h : e.SameRun e') (hnone : e.fallback = none)
include h hnone

/-- Two plain types of one kind keep what they build, whatever their envelopes are. -/
theorem keptBy_plain (k : Kind) : (plain e k).KeptBy (plain e' k) := by
  intro v w hv
  exact h.build_eq_ok hnone (fun _ _ hu => hu) hv

/-- Lists keep what they build if their members do. -/
theorem keptBy_list {m m' : Ty σ} (hm : m.KeptBy m') : (list e m).KeptBy (list e' m') := by
  have hbody : ∀ u w, (list e m).body u = .ok w → (list e' m').body u = .ok w := by
    intro u w hu
    obtain ⟨items, ws, rfl, hitems, rfl⟩ := body_list_eq_ok_iff.1 hu
    refine body_list_eq_ok_iff.2 ⟨items, ws, rfl, ?_, rfl⟩
    rw [buildItems_eq_ok_iff] at hitems ⊢
    exact hitems.imp hm
  intro v w hv
  exact h.build_eq_ok hnone hbody hv

/-- Records keep what they build if their fields do, one by one. -/
theorem keptBy_record {schema schema' : String} {fields fields' : List (String × Ty σ)}
    (hfields : FieldsKeptBy fields fields') :
    (record e schema fields).KeptBy (record e' schema' fields') := by
  have hbody : ∀ u w, (record e schema fields).body u = .ok w →
      (record e' schema' fields').body u = .ok w := by
    intro u w hu
    obtain ⟨input, out, rfl, hout, rfl⟩ := body_record_eq_ok_iff.1 hu
    exact body_record_eq_ok_iff.2 ⟨input, out, rfl, hfields.buildFields_eq_ok hout, rfl⟩
  intro v w hv
  exact h.build_eq_ok hnone hbody hv

end Levels

end Ty

end ValueTypes
