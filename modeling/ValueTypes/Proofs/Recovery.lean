/-
  When a fallback takes the place of an error.

  A fallback looks at an error from the outside: any data error is recovered from.  The place of a
  failure in a list leaves the sort of the error alone, but a record wraps every failure of a field
  into a data error, whatever the field failed for.  So an error that the input is not to blame for,
  by its root (`TypeError.root`), stays visible behind a fallback exactly if it did not come up
  through a field.

  `Ty.FailsInField t v` says of a type and a value that the first failure is one of a field: at the
  type itself, or below the lists that lead there, unless a step wraps an error on its own.  It
  holds exactly if building fails with a wrapped error (`failsInField_iff`), by induction along the
  lists one way and on the type the other way.  The main result puts this together with the
  exact effect of a fallback (`withFallback_build_eq_error_iff`).
-/
import ValueTypes.Proofs.Build

namespace ValueTypes

/-! ## Errors -/

namespace TypeError

theorem source?_atKey (start : String) (e : TypeError) : (e.atKey start).source? = e.source? := by
  cases e <;> rfl

/-- An error with a source is a data error. -/
theorem isData_of_source? {e : TypeError} (h : e.source?.isSome = true) : e.isData = true := by
  cases e with
  | invalidField => rfl
  | unknownType | invalidValue | invalidComposition | missingField | malformedSpec
  | unknownBuilder => cases h

/-- An error whose root is no data error is one itself exactly if it is wrapped. -/
theorem isData_of_root {e : TypeError} (h : e.root.isData = false) :
    e.isData = e.source?.isSome := by
  cases e with
  | invalidField => rfl
  | invalidValue | missingField => cases h
  | unknownType | invalidComposition | malformedSpec | unknownBuilder => rfl

end TypeError

theorem Kind.source?_of_check {k : Kind} {v : Value} {e : TypeError} (h : k.check v = .error e) :
    e.source? = none := by
  rw [check] at h
  split at h
  · cases h
  · cases h
    rfl

namespace Ty

variable {σ : Type} [StepMeaning σ]

/-! ## Failures of fields -/

/-- The first failure is one of a field, and no fallback is in its way. -/
inductive FailsInField : Ty σ → Value → Prop where
  /-- A step wraps an error on its own. -/
  | step {t : Ty σ} {v : Value} {err : TypeError} (hnone : t.fallback = none)
    (h : t.envelope.Refuses v err) (hwrapped : err.source?.isSome = true) : FailsInField t v
  /-- The first item that fails does so in a field. -/
  | item {e : Envelope σ} {m : Ty σ} {v x : Value} {before after : List Value}
    (hnone : e.fallback = none) (h : e.Passes v (.arr (before ++ x :: after)))
    (hbefore : ∀ y ∈ before, ∃ w, m.build y = .ok w) (hx : FailsInField m x) :
    FailsInField (.list e m) v
  /-- The first field that fails is there, and its type refuses its value. -/
  | field {e : Envelope σ} {schema : String} {before after : List (String × Ty σ)} {f : String}
    {t : Ty σ} {v x : Value} {input : Entries Value} {err : TypeError}
    (hnone : e.fallback = none) (h : e.Passes v (.obj input))
    (hbefore : ∀ p ∈ before, ∃ w, FieldBuilds input p.1 p.2 w) (hx : input.get? f = some x)
    (herr : t.build x = .error err) :
    FailsInField (.record e schema (before ++ (f, t) :: after)) v

/-- A build that fails in a field ends in an error with a source. -/
theorem FailsInField.build_eq_error {t : Ty σ} {v : Value} (h : t.FailsInField v) :
    ∃ err, t.build v = .error err ∧ err.source?.isSome = true := by
  induction h with
  | step hnone href hwrapped => exact ⟨_, build_eq_error_iff.2 ⟨.inl hnone, .inl href⟩, hwrapped⟩
  | item hnone hpass hbefore _ ih =>
    obtain ⟨err, herr, hwrapped⟩ := ih
    refine ⟨_, build_eq_error_iff.2 ⟨.inl hnone, .inr ⟨_, hpass, body_list_eq_error_iff.2
      (.inr ⟨_, rfl, buildItems_eq_error_iff.2 ⟨_, _, _, rfl, hbefore, err, herr, rfl⟩⟩)⟩⟩, ?_⟩
    rw [TypeError.source?_atKey]
    exact hwrapped
  | field hnone hpass hbefore hx herr =>
    exact ⟨_, build_eq_error_iff.2 ⟨.inl hnone, .inr ⟨_, hpass, body_record_eq_error_iff.2
      (.inr ⟨_, rfl, buildFields_eq_error_iff.2 ⟨_, (_, _), _, rfl, hbefore, .refused hx herr⟩⟩)⟩⟩,
      rfl⟩

/-- A type fails with a wrapped error by a step, or by a body that no fallback is around. -/
theorem failsInField_of_body {t : Ty σ} {v : Value} {err : TypeError}
    (hwrapped : err.source?.isSome = true) (h : t.build v = .error err)
    (hbody : t.fallback = none → ∀ {u}, t.envelope.Passes v u → t.body u = .error err →
      t.FailsInField v) : t.FailsInField v := by
  obtain ⟨hpast, hfails⟩ := build_eq_error_iff.1 h
  have hnone : t.fallback = none := by
    rcases hpast with hnone | hnot
    · exact hnone
    · rw [TypeError.isData_of_source? hwrapped] at hnot
      cases hnot
  rcases hfails with href | ⟨u, hpass, hu⟩
  · exact .step hnone href hwrapped
  · exact hbody hnone hpass hu

/-- A failure is one of a field exactly if its error wraps another. -/
theorem failsInField_iff {t : Ty σ} {v : Value} :
    t.FailsInField v ↔ ∃ err, t.build v = .error err ∧ err.source?.isSome = true := by
  refine ⟨FailsInField.build_eq_error, ?_⟩
  rintro ⟨err, herr, hwrapped⟩
  induction t generalizing v err with
  | plain e k =>
    refine failsInField_of_body hwrapped herr ?_
    intro _ u _ hu
    -- what is not of the kind is refused with an error of its own
    rw [Kind.source?_of_check hu] at hwrapped
    cases hwrapped
  | list e m ih =>
    refine failsInField_of_body hwrapped herr ?_
    intro hnone u hpass hu
    rcases body_list_eq_error_iff.1 hu with hkind | ⟨items, rfl, hitems⟩
    · rw [Kind.source?_of_check hkind] at hwrapped
      cases hwrapped
    · obtain ⟨before, x, after, rfl, hbefore, err', hx, rfl⟩ := buildItems_eq_error_iff.1 hitems
      rw [TypeError.source?_atKey] at hwrapped
      exact .item hnone hpass hbefore (ih err' hx hwrapped)
  | record e schema fields ih =>
    refine failsInField_of_body hwrapped herr ?_
    intro hnone u hpass hu
    rcases body_record_eq_error_iff.1 hu with hkind | ⟨input, rfl, hfields⟩
    · rw [Kind.source?_of_check hkind] at hwrapped
      cases hwrapped
    · obtain ⟨before, ⟨f, t⟩, after, rfl, hbefore, hfail⟩ := buildFields_eq_error_iff.1 hfields
      cases hfail with
      | missing hnot => cases hwrapped
      | refused hx hrefused => exact .field hnone hpass hbefore hx hrefused

/-! ## Fallbacks -/

/-- A first fallback recovers from what the type does without it. -/
theorem withFallback_build {t : Ty σ} (hnone : t.fallback = none) (serial : Nat) (w v : Value) :
    (t.withFallback serial w).build v = (t.build v).recover (some w) := by
  have hplain : t.build v = t.envelope.attempt t.body v := by
    rw [build_eq, Envelope.build, show t.envelope.fallback = none from hnone,
      Outcome.recover_none]
  rw [hplain, withFallback, build_withEnvelope]
  rfl

/-- **A fallback and an error that the input is not to blame for**: the error stays as it is, unless
    building fails in a field; then the fallback hides it. -/
theorem withFallback_build_eq_error_iff {t : Ty σ} {v : Value} {e : TypeError}
    (hnone : t.fallback = none) (h : t.build v = .error e) (hroot : e.root.isData = false)
    (serial : Nat) (w : Value) :
    ((t.withFallback serial w).build v = .error e ↔ ¬t.FailsInField v) ∧
      ((t.withFallback serial w).build v = .ok w ↔ t.FailsInField v) := by
  have hfails : t.FailsInField v ↔ e.isData = true := by
    rw [failsInField_iff, TypeError.isData_of_root hroot]
    constructor
    · rintro ⟨err, herr, hwrapped⟩
      rw [h] at herr
      cases herr
      exact hwrapped
    · intro hwrapped
      exact ⟨e, h, hwrapped⟩
  rw [withFallback_build hnone, h, hfails]
  cases hdata : e.isData with
  | true => simp [Outcome.recover, hdata]
  | false => simp [Outcome.recover, hdata]

/-! ## A step that is a misfit -/

/-- The one step of a type that was put together wrongly. -/
inductive Misfit where
  | step

/-- The step says of every value that it is a misfit. -/
instance : StepMeaning Misfit where
  apply _ _ := .error (.invalidComposition "misfit")
  recode _ _ := .error (.unwritable "misfit")

/-- In a list a fallback leaves the error of a misfit as it is, and in a field it hides it. -/
theorem withFallback_build_eq_error_iff_at_misfit :
    let text : Ty Misfit := (nominal 0 .string).withStep 2 ⟨1, .custom .step⟩
    let texts : Ty Misfit := list ⟨3, "array<string>", [], false, none⟩ text
    let form : Ty Misfit := record ⟨4, "Form", [], false, none⟩ "Form" [("a", text)]
    ¬texts.FailsInField (.arr [.str "x"]) ∧ form.FailsInField (.obj [("a", .str "x")]) := by
  intro text texts form
  constructor
  · have h := withFallback_build_eq_error_iff (t := texts) (v := .arr [.str "x"]) rfl rfl rfl 5
      (.int 0)
    exact h.1.1 rfl
  · have h := withFallback_build_eq_error_iff (t := form) (v := .obj [("a", .str "x")]) rfl rfl rfl
      5 (.int 0)
    exact h.2.1 rfl

/-- So a fallback may hide an error whose root is no data error. -/
theorem withFallback_hides_misfit :
    ¬∀ (t : Ty Misfit) (serial : Nat) (w v : Value) (e : TypeError), t.fallback = none →
      t.build v = .error e → e.root.isData = false →
        (t.withFallback serial w).build v = .error e := by
  intro hshown
  let text : Ty Misfit := (nominal 0 .string).withStep 2 ⟨1, .custom .step⟩
  let form : Ty Misfit := record ⟨4, "Form", [], false, none⟩ "Form" [("a", text)]
  have hhidden : (form.withFallback 5 (.int 0)).build (.obj [("a", .str "x")]) = .ok (.int 0) := rfl
  have herror := hshown form 5 (.int 0) (.obj [("a", .str "x")]) _ rfl rfl rfl
  rw [hhidden] at herror
  cases herror

end Ty

end ValueTypes
