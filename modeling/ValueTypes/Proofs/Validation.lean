/-
  Records: which declarations make one, and what it makes of an object.

  A list of fields makes a record exactly if no name is declared twice (`ofFields_eq_ok_iff`); the
  first name that comes again is what is reported otherwise (`ofFields_eq_error_iff`).  Validation
  goes through the fields in the order of their declaration, and it can be told without that order
  when it succeeds:

  * it gives the object that has the declared fields and no others, each built by its own type
    (`Gives`, `validate_eq_ok_iff`), and it does so exactly if each of them can be built;
  * otherwise it reports the first declared field that is missing or refused (`Stops`,
    `validate_eq_error_iff`).

  That no name is declared twice is what makes the first of the two exact: each declared field is
  the one that look-up finds (`Entries.get?_of_nodup`).  The rest follows.  Only the values of the
  declared fields are read (`Ty.buildFields_congr`); fields that are declared in another order are
  the same fields (`Gives.reorder`); and fewer fields make fewer demands and give a part of the
  object (`Gives.restrict`).
-/
import ValueTypes.Proofs.Build

namespace ValueTypes.Record

variable {σ : Type}

/-! ## Declarations -/

/-- Nothing repeats when the names are distinct and none was seen before. -/
theorem firstRepeat_eq_none_iff {seen ns : List String} :
    firstRepeat seen ns = none ↔ ns.Nodup ∧ ∀ n ∈ ns, n ∉ seen := by
  constructor
  · exact nodup_of_firstRepeat
  · rintro ⟨hnodup, hseen⟩
    induction ns generalizing seen with
    | nil => rfl
    | cons n ns ih =>
      obtain ⟨hn, hns⟩ := List.nodup_cons.1 hnodup
      rw [firstRepeat, if_neg (hseen n List.mem_cons_self)]
      refine ih hns ?_
      intro m hm hmem
      rcases List.mem_cons.1 hmem with rfl | hmem
      · exact hn hm
      · exact hseen m (List.mem_cons_of_mem _ hm) hmem

/-- The first repeat comes after names that do not repeat, one of which it is, unless it was seen
    before all of them. -/
theorem firstRepeat_eq_some_iff {seen ns : List String} {f : String} :
    firstRepeat seen ns = some f ↔
      ∃ before after, ns = before ++ f :: after ∧ firstRepeat seen before = none ∧
        (f ∈ seen ∨ f ∈ before) := by
  induction ns generalizing seen with
  | nil => simp [firstRepeat]
  | cons n ns ih =>
    rw [firstRepeat]
    constructor
    · intro h
      split at h
      · rename_i hn
        cases h
        exact ⟨[], ns, rfl, rfl, .inl hn⟩
      · rename_i hn
        obtain ⟨before, after, rfl, hnone, hmem⟩ := ih.1 h
        refine ⟨n :: before, after, rfl, ?_, ?_⟩
        · rw [firstRepeat, if_neg hn, hnone]
        · simp only [List.mem_cons] at hmem ⊢
          exact or_assoc.1 (hmem.imp_left Or.symm)
    · rintro ⟨before, after, hsplit, hnone, hmem⟩
      cases before with
      | nil =>
        cases hsplit
        rw [if_pos (hmem.resolve_right List.not_mem_nil)]
      | cons m before =>
        cases hsplit
        rw [firstRepeat] at hnone
        split at hnone
        · cases hnone
        · rename_i hn
          rw [if_neg hn]
          refine ih.2 ⟨before, after, rfl, hnone, ?_⟩
          simp only [List.mem_cons] at hmem ⊢
          exact (or_assoc.2 hmem).imp_left Or.symm

/-- A list of fields makes the record that has them, or none. -/
theorem ofFields_eq_ok_iff {name : String} {fields : List (String × Ty σ)} {r : Record σ} :
    ofFields name fields = .ok r ↔ r.name = name ∧ r.fields = fields := by
  unfold ofFields
  split
  · rename_i hnone
    constructor
    · intro h
      cases h
      exact ⟨rfl, rfl⟩
    · rintro ⟨rfl, rfl⟩
      rfl
  · rename_i f hrepeat
    refine iff_of_false nofun ?_
    rintro ⟨-, rfl⟩
    rw [firstRepeat_eq_none_iff.2 ⟨r.distinct, fun _ _ => List.not_mem_nil⟩] at hrepeat
    cases hrepeat

/-- Fields make a record exactly if their names are distinct. -/
theorem exists_ofFields_eq_ok_iff {name : String} {fields : List (String × Ty σ)} :
    (∃ r, ofFields name fields = .ok r) ↔ (fields.map Prod.fst).Nodup := by
  constructor
  · rintro ⟨r, h⟩
    obtain ⟨-, rfl⟩ := ofFields_eq_ok_iff.1 h
    exact r.distinct
  · intro h
    exact ⟨⟨name, fields, h⟩, ofFields_eq_ok_iff.2 ⟨rfl, rfl⟩⟩

/-- The first of the names that also stands before itself. -/
def RepeatsFirst (names : List String) (f : String) : Prop :=
  ∃ before after, names = before ++ f :: after ∧ before.Nodup ∧ f ∈ before

theorem repeatsFirst_iff {names : List String} {f : String} :
    RepeatsFirst names f ↔ firstRepeat [] names = some f := by
  simp [RepeatsFirst, firstRepeat_eq_some_iff, firstRepeat_eq_none_iff]

/-- The first name that is declared a second time is reported. -/
theorem ofFields_eq_error_iff {name : String} {fields : List (String × Ty σ)} {e : TypeError} :
    ofFields name fields = .error e ↔ ∃ f, RepeatsFirst (fields.map Prod.fst) f ∧
      e = .invalidComposition ("struct " ++ name ++ " declares field :" ++ f ++ " twice") := by
  simp only [repeatsFirst_iff]
  unfold ofFields
  split
  · rename_i hnone
    refine iff_of_false nofun ?_
    rintro ⟨f, hf, -⟩
    rw [hnone] at hf
    cases hf
  · rename_i f hrepeat
    constructor
    · intro h
      cases h
      exact ⟨f, hrepeat, rfl⟩
    · rintro ⟨g, hg, rfl⟩
      rw [hrepeat] at hg
      cases hg
      rfl

/-! ## Validation -/

variable [StepMeaning σ]

/-- The object that a record makes of an input: it has the declared fields and no others, and each
    is what its type makes of the value in the input. -/
structure Gives (r : Record σ) (input out : Entries Value) : Prop where
  sorted : out.Sorted
  keys : ∀ f, f ∈ out.map Prod.fst ↔ f ∈ r.fields.map Prod.fst
  built : ∀ f t, (f, t) ∈ r.fields → ∃ w, Ty.FieldBuilds input f t w ∧ out.get? f = some w

/-- The first field, in the order of declaration, that is missing or refused, and its error. -/
def Stops (r : Record σ) (input : Entries Value) (err : TypeError) : Prop :=
  ∃ before p after, r.fields = before ++ p :: after ∧
    (∀ p ∈ before, ∃ w, Ty.FieldBuilds input p.1 p.2 w) ∧ Ty.FieldFails input p.1 p.2 err

variable {r s : Record σ} {input out : Entries Value}

theorem Gives.unique {out' : Entries Value} (h : r.Gives input out) (h' : r.Gives input out') :
    out = out' := by
  refine h.sorted.ext h'.sorted ?_
  intro f
  by_cases hf : f ∈ r.fields.map Prod.fst
  · obtain ⟨⟨f, t⟩, hmem, rfl⟩ := List.mem_map.1 hf
    obtain ⟨w, ⟨v, hv, hw⟩, hout⟩ := h.built f t hmem
    obtain ⟨w', ⟨v', hv', hw'⟩, hout'⟩ := h'.built f t hmem
    rw [hv] at hv'
    cases hv'
    rw [hw] at hw'
    cases hw'
    rw [hout, hout']
  · -- an undeclared key is in neither of them
    have hnone : ∀ {o : Entries Value}, r.Gives input o → o.get? f = none := by
      intro o ho
      rw [← Option.not_isSome_iff_eq_none, ← Entries.mem_keys_iff, ho.keys]
      exact hf
    rw [hnone h, hnone h']

theorem gives_of_validate (h : r.validate input = .ok out) : r.Gives input out := by
  obtain ⟨hsorted, hrel⟩ := Ty.buildFields_eq_ok h
  refine ⟨hsorted, Ty.buildFields_keys h, ?_⟩
  intro f t hmem
  have hf := hrel f
  rw [Entries.get?_of_nodup r.distinct hmem] at hf
  generalize out.get? f = o at hf ⊢
  cases hf with
  | some hb => exact ⟨_, hb, rfl⟩

/-- Validation succeeds exactly if each declared field can be built. -/
theorem exists_validate_eq_ok_iff :
    (∃ out, r.validate input = .ok out) ↔
      ∀ f t, (f, t) ∈ r.fields → ∃ w, Ty.FieldBuilds input f t w :=
  Ty.exists_buildFields_eq_ok_iff

/-- Validation succeeds with what the input gives. -/
theorem validate_eq_ok_iff : r.validate input = .ok out ↔ r.Gives input out := by
  constructor
  · exact gives_of_validate
  · intro h
    obtain ⟨out', hout'⟩ : ∃ out, r.validate input = .ok out := by
      refine exists_validate_eq_ok_iff.2 ?_
      intro f t hmem
      obtain ⟨w, hb, -⟩ := h.built f t hmem
      exact ⟨w, hb⟩
    rw [hout', h.unique (gives_of_validate hout')]

/-- Validation fails with the error that the input stops at. -/
theorem validate_eq_error_iff {err : TypeError} :
    r.validate input = .error err ↔ r.Stops input err := Ty.buildFields_eq_error_iff

/-! ## Other declarations -/

/-- Fewer fields give a part of the object. -/
theorem Gives.restrict (h : r.Gives input out) (hsub : s.fields ⊆ r.fields) :
    s.Gives input (out.filter fun e => e.1 ∈ s.fields.map Prod.fst) := by
  refine ⟨h.sorted.filter _, ?_, ?_⟩
  · intro f
    constructor
    · intro hf
      obtain ⟨e, he, rfl⟩ := List.mem_map.1 hf
      exact of_decide_eq_true (List.mem_filter.1 he).2
    · intro hf
      obtain ⟨e, he, rfl⟩ := List.mem_map.1 ((h.keys f).2 (List.map_subset _ hsub hf))
      exact List.mem_map.2 ⟨e, List.mem_filter.2 ⟨he, decide_eq_true hf⟩, rfl⟩
  · intro f t hmem
    obtain ⟨w, hb, hout⟩ := h.built f t (hsub hmem)
    refine ⟨w, hb, ?_⟩
    rw [h.sorted.get?_filter, hout, Option.filter_some, if_pos]
    exact decide_eq_true (List.mem_map.2 ⟨_, hmem, rfl⟩)

/-- The order of declaration does not show in what is given. -/
theorem Gives.reorder (h : r.Gives input out) (hperm : r.fields.Perm s.fields) :
    s.Gives input out := by
  refine ⟨h.sorted, ?_, ?_⟩
  · intro f
    rw [h.keys, (hperm.map Prod.fst).mem_iff]
  · intro f t hmem
    exact h.built f t (hperm.mem_iff.2 hmem)

/-! ## Main result -/

/-- **Validation is complete and exact.**  Fields make a record exactly if their names are distinct,
    and the first name that comes again is reported otherwise.  A record whose fields can all be
    built gives the object of them, and reports the first that is missing or refused otherwise.  The
    outcome depends on the declared fields of the input only; another order of declaration gives the
    same; and some of the fields, in their order, make a record that gives this part of the
    object. -/
theorem validation_exact :
    (∀ (name : String) (fields : List (String × Ty σ)),
      ((∃ r, ofFields name fields = .ok r) ↔ (fields.map Prod.fst).Nodup) ∧
      (∀ r, ofFields name fields = .ok r ↔ r.name = name ∧ r.fields = fields) ∧
      ∀ e, ofFields name fields = .error e ↔ ∃ f, RepeatsFirst (fields.map Prod.fst) f ∧
        e = .invalidComposition ("struct " ++ name ++ " declares field :" ++ f ++ " twice")) ∧
    ∀ (r : Record σ) (input : Entries Value),
      ((∃ out, r.validate input = .ok out) ↔
        ∀ f t, (f, t) ∈ r.fields → ∃ w, Ty.FieldBuilds input f t w) ∧
      (∀ out, r.validate input = .ok out ↔ r.Gives input out) ∧
      (∀ err, r.validate input = .error err ↔ r.Stops input err) ∧
      (∀ input' : Entries Value,
        (∀ f ∈ r.fields.map Prod.fst, input.get? f = input'.get? f) →
          r.validate input = r.validate input') ∧
      (∀ s : Record σ, r.fields.Perm s.fields →
        ∀ out, r.validate input = .ok out ↔ s.validate input = .ok out) ∧
      ∀ (name : String) (fields : List (String × Ty σ)), fields.Sublist r.fields →
        ∃ s, ofFields name fields = .ok s ∧
          ∀ out, r.validate input = .ok out →
            s.validate input = .ok (out.filter fun e => e.1 ∈ fields.map Prod.fst) := by
  refine ⟨fun name fields => ⟨exists_ofFields_eq_ok_iff, fun r => ofFields_eq_ok_iff,
    fun e => ofFields_eq_error_iff⟩, ?_⟩
  intro r input
  refine ⟨exists_validate_eq_ok_iff, fun out => validate_eq_ok_iff,
    fun err => validate_eq_error_iff, fun input' h => Ty.buildFields_congr h, ?_, ?_⟩
  · intro s hperm out
    rw [validate_eq_ok_iff, validate_eq_ok_iff]
    exact ⟨fun h => h.reorder hperm, fun h => h.reorder hperm.symm⟩
  · intro name fields hsub
    obtain ⟨s, hs⟩ : ∃ s, ofFields name fields = .ok s :=
      exists_ofFields_eq_ok_iff.2 ((hsub.map Prod.fst).nodup r.distinct)
    obtain ⟨-, rfl⟩ := ofFields_eq_ok_iff.1 hs
    refine ⟨s, hs, ?_⟩
    intro out hout
    exact validate_eq_ok_iff.2 ((validate_eq_ok_iff.1 hout).restrict hsub.subset)

/-- An optional field with a fallback: its value may be anything, but it has to be there. -/
theorem validation_exact_at_optional_field :
    let name : Ty Empty := .nominal 0 .string
    let nick : Ty Empty := ((Ty.nominal 1 .string).optional 2).withFallback 3 (.str "?")
    let input : Entries Value := [("age", .int 36), ("name", .str "Ada"), ("nick", .int 5)]
    ∃ r : Record Empty, ofFields "User" [("name", name), ("nick", nick)] = .ok r ∧
      r.validate input = .ok [("name", .str "Ada"), ("nick", .str "?")] ∧
      r.validate [("name", .str "Ada")] = .error (.missingField "nick") ∧
      ∃ s : Record Empty, ofFields "Nick" [("nick", nick)] = .ok s ∧
        s.validate input = .ok [("nick", .str "?")] := by
  intro name nick input
  obtain ⟨hdeclares, hvalidates⟩ := validation_exact (σ := Empty)
  obtain ⟨hdistinct, hmakes, -⟩ := hdeclares "User" [("name", name), ("nick", nick)]
  obtain ⟨r, hr⟩ := hdistinct.2 (show ["name", "nick"].Nodup by decide)
  obtain ⟨-, hfields⟩ := (hmakes r).1 hr
  obtain ⟨-, -, -, -, -, hrestricts⟩ := hvalidates r input
  have hok : r.validate input = .ok [("name", .str "Ada"), ("nick", .str "?")] := by
    rw [validate, hfields]
    rfl
  refine ⟨r, hr, hok, ?_, ?_⟩
  · obtain ⟨-, -, hstops, -⟩ := hvalidates r [("name", .str "Ada")]
    refine (hstops _).2 ⟨[("name", name)], ("nick", nick), [], hfields, ?_, .missing rfl⟩
    intro p hp
    cases List.mem_singleton.1 hp
    exact ⟨_, _, rfl, rfl⟩
  · have hsub : [("nick", nick)].Sublist r.fields := by
      rw [hfields]
      exact List.sublist_cons_self _ _
    obtain ⟨s, hs, hrestricts⟩ := hrestricts "Nick" _ hsub
    exact ⟨s, hs, hrestricts _ hok⟩

end ValueTypes.Record
