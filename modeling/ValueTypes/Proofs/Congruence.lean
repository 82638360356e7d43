/-
  Equality of types is an equivalence, and everything done with types respects it.

  Equality looks past two things: the numbers of the instances, and the sign of a zero in a fallback.
  So a type has an outline (`Ty.outline`), in which the numbers are all zero and the fallbacks are in
  normal form, and two types are equal exactly if they have one outline (`Ty.same_iff`).  It is an
  equivalence because sameness of outlines is one, so it would be no other if it took one instance
  for equal to itself without looking; and an operation respects it as soon as it commutes with the
  outline.

  For building, what has to be shown is that a type and its outline build alike
  (`Ty.build_outline`), by one induction on one type.  The two run the same steps on the same values,
  so they fail with one error; only the zeros of a fallback may differ in what they give, and no step
  ever sees these, because the steps of a type run before its body.
-/
import ValueTypes.Proofs.Build
import ValueTypes.Proofs.TyEquality

namespace ValueTypes

/-! ## Normal forms of values -/

/-- The double with a positive zero. -/
def Double.normal (x : Double) : Double := if x.isZero then zero false else x

theorem Double.ne_of_isZero {x y : Double} (hx : x.isZero = true) (hy : y.isZero = false) :
    x ≠ y := by
  rintro rfl
  rw [hx] at hy
  cases hy

/-- Doubles are equal as numbers if they have one normal form, in which the zeros are one. -/
theorem Double.same_iff {x y : Double} : x.same y = true ↔ x.normal = y.normal := by
  unfold same normal
  cases hx : x.isZero with
  | true =>
    cases hy : y.isZero with
    | true => simp
    | false => simp [ne_of_isZero hx hy, ne_of_isZero (x := zero false) rfl hy]
  | false =>
    cases hy : y.isZero with
    | true => simp [(ne_of_isZero hy hx).symm, (ne_of_isZero (x := zero false) rfl hx).symm]
    | false => simp

theorem Double.normal_normal (x : Double) : x.normal.normal = x.normal := by
  unfold normal
  cases hx : x.isZero with
  | true => rfl
  | false => simp [hx]

namespace Value

mutual

/-- The value with positive zeros. -/
def normal : Value → Value
  | float x => float x.normal
  | arr items => arr (normalItems items)
  | obj fields => obj (normalFields fields)
  | v => v

def normalItems : List Value → List Value
  | [] => []
  | v :: vs => v.normal :: normalItems vs

def normalFields : List (String × Value) → List (String × Value)
  | [] => []
  | (k, v) :: fs => (k, v.normal) :: normalFields fs

end

mutual

/-- Two values are equal exactly if they have one normal form. -/
theorem same_iff : ∀ {v w : Value}, v.same w = true ↔ v.normal = w.normal := by
  intro v w
  cases v with
  | null => cases w <;> simp [same, normal]
  | bool a => cases w <;> simp [same, normal]
  | int a => cases w <;> simp [same, normal]
  | float x => cases w <;> simp [same, normal, Double.same_iff]
  | str a => cases w <;> simp [same, normal]
  | arr items => cases w <;> simp [same, normal, sameItems_iff]
  | obj fields => cases w <;> simp [same, normal, sameFields_iff]

/-- Lists are equal as values if their normal forms are one, and so are tables of fields. -/
theorem sameItems_iff : ∀ {vs ws : List Value},
    sameItems vs ws = true ↔ normalItems vs = normalItems ws := by
  intro vs ws
  cases vs with
  | nil => cases ws <;> simp [sameItems, normalItems]
  | cons v vs => cases ws <;> simp [sameItems, normalItems, same_iff, sameItems_iff]

/-- Two lists of fields are the same when their normal forms are. -/
theorem sameFields_iff : ∀ {fs gs : List (String × Value)},
    sameFields fs gs = true ↔ normalFields fs = normalFields gs := by
  intro fs gs
  cases fs with
  | nil => cases gs <;> simp [sameFields, normalFields]
  | cons f fs => cases gs <;> simp [sameFields, normalFields, same_iff, sameFields_iff]

end

mutual

/-- Nothing is left to be done to a normal form. -/
theorem normal_normal : ∀ v : Value, v.normal.normal = v.normal
  | null | bool _ | int _ | str _ => rfl
  | float x => by rw [normal, normal, x.normal_normal]
  | arr items => by rw [normal, normal, normalItems_normalItems items]
  | obj fields => by rw [normal, normal, normalFields_normalFields fields]

theorem normalItems_normalItems : ∀ vs : List Value, normalItems (normalItems vs) = normalItems vs
  | [] => rfl
  | v :: vs => by rw [normalItems, normalItems, normal_normal v, normalItems_normalItems vs]

theorem normalFields_normalFields : ∀ fs : List (String × Value),
    normalFields (normalFields fs) = normalFields fs
  | [] => rfl
  | (k, v) :: fs => by rw [normalFields, normalFields, normal_normal v, normalFields_normalFields fs]

end

/-- A field is normalised before it is put among others or after. -/
theorem normalFields_insert (k : String) (v : Value) (fs : Entries Value) :
    normalFields (fs.insert k v) = Entries.insert k v.normal (normalFields fs) := by
  induction fs with
  | nil => rfl
  | cons f fs ih =>
    obtain ⟨k', v'⟩ := f
    rw [Entries.insert, normalFields, Entries.insert]
    split
    · rw [normalFields, normalFields]
    · split
      · rw [normalFields]
      · rw [normalFields, ih]

end Value

/-- Equality of values is an equivalence. -/
theorem Value.same_equivalence : Equivalence fun v w : Value => v.same w = true := by
  simp only [same_iff]
  exact ⟨fun _ => rfl, Eq.symm, Eq.trans⟩

theorem Value.sameFields_equivalence :
    Equivalence fun es fs : Entries Value => sameFields es fs = true := by
  simp only [sameFields_iff]
  exact ⟨fun _ => rfl, Eq.symm, Eq.trans⟩

/-! ## Results that are alike -/

/-- Both results are one error, or both are successes that are related. -/
inductive Alike {α : Type} (r : α → α → Prop) :
    Except TypeError α → Except TypeError α → Prop where
  | ok {a b : α} (h : r a b) : Alike r (.ok a) (.ok b)
  | error (e : TypeError) : Alike r (.error e) (.error e)

/-- Outcomes that are alike up to an equivalence form an equivalence. -/
theorem Alike.equivalence {α : Type} {r : α → α → Prop} (hr : Equivalence r) :
    Equivalence (Alike r) where
  refl o := by
    cases o with
    | ok a => exact .ok (hr.refl a)
    | error e => exact .error e
  symm h := by
    cases h with
    | ok h => exact .ok (hr.symm h)
    | error e => exact .error e
  trans h h' := by
    cases h with
    | ok h =>
      cases h' with
      | ok h' => exact .ok (hr.trans h h')
    | error e => exact h'

/-- What goes on alike from outcomes that are alike ends alike. -/
theorem Alike.map {α β : Type} {r : α → α → Prop} {s : β → β → Prop} {f : α → β}
    (hf : ∀ a b, r a b → s (f a) (f b)) {o p : Except TypeError α} (h : Alike r o p) :
    Alike s (o.map f) (p.map f) := by
  cases h with
  | ok h => exact .ok (hf _ _ h)
  | error e => exact .error e

/-- Both outcomes are one error, or both are values that are equal. -/
abbrev Outcome.Alike (o p : Outcome) : Prop := ValueTypes.Alike (fun v w => v.same w = true) o p

/-- A fallback and its normal form recover alike from outcomes that are alike. -/
theorem Outcome.Alike.recover {o p : Outcome} (h : o.Alike p) (fallback : Option Value) :
    (o.recover (fallback.map Value.normal)).Alike (p.recover fallback) := by
  cases h with
  | ok h => exact .ok h
  | error e =>
    cases fallback with
    | none => exact .error e
    | some w =>
      simp only [Outcome.recover, Option.map_some]
      split
      · exact .ok (Value.same_iff.2 w.normal_normal)
      · exact .error e

/-! ## Outlines of types -/

variable {σ : Type}

/-- The envelope without its number, and with its fallback in normal form. -/
def Envelope.outline (e : Envelope σ) : Envelope σ :=
  { e with serial := 0, fallback := e.fallback.map Value.normal }

namespace Ty

mutual

/-- What equality looks at. -/
def outline : Ty σ → Ty σ
  | plain e k => plain e.outline k
  | list e m => list e.outline m.outline
  | record e schema fields => record e.outline schema (outlineFields fields)

def outlineFields : List (String × Ty σ) → List (String × Ty σ)
  | [] => []
  | (f, t) :: fields => (f, t.outline) :: outlineFields fields

end

theorem name_outline (t : Ty σ) : t.outline.name = t.name := by cases t <;> rfl

/-- An outline is renamed as its type is. -/
theorem outline_named (t : Ty σ) (serial : Nat) (name : String) :
    (t.named serial name).outline = t.outline.named 0 name := by cases t <;> rfl

theorem outline_optional (t : Ty σ) (serial : Nat) :
    (t.optional serial).outline = t.outline.optional 0 := by cases t <;> rfl

/-- The fallback of an outline is the normal form of the value. -/
theorem outline_withFallback (t : Ty σ) (serial : Nat) (v : Value) :
    (t.withFallback serial v).outline = t.outline.withFallback 0 v.normal := by cases t <;> rfl

section Equality

variable [DecidableEq σ]

theorem sameFallback_iff {a b : Option Value} :
    sameFallback a b = true ↔ a.map Value.normal = b.map Value.normal := by
  cases a <;> cases b <;> simp [sameFallback, Value.same_iff]

/-- Envelopes are equal up to instances if their outlines are. -/
theorem sameEnvelope_iff {e f : Envelope σ} :
    sameEnvelope e f = true ↔ e.outline = f.outline := by
  simp [sameEnvelope, Envelope.outline, sameFallback_iff, and_assoc]

mutual

/-- Two types are equal exactly if they have one outline. -/
theorem same_iff : ∀ {a b : Ty σ}, a.same b = true ↔ a.outline = b.outline := by
  intro a b
  cases a with
  | plain e k => cases b <;> simp [same, outline, sameEnvelope_iff]
  | list e m => cases b <;> simp [same, outline, sameEnvelope_iff, same_iff]
  | record e s fs =>
    cases b <;> simp [same, outline, sameEnvelope_iff, sameFields_iff, and_assoc]

/-- Two lists of typed fields are the same when their outlines are. -/
theorem sameFields_iff : ∀ {fs gs : List (String × Ty σ)},
    sameFields fs gs = true ↔ outlineFields fs = outlineFields gs := by
  intro fs gs
  cases fs with
  | nil => cases gs <;> simp [sameFields, outlineFields]
  | cons f fs => cases gs <;> simp [sameFields, outlineFields, same_iff, sameFields_iff]

end

/-- Equality of types is an equivalence. -/
theorem same_equivalence : Equivalence fun a b : Ty σ => a.same b = true := by
  simp only [same_iff]
  exact ⟨fun _ => rfl, Eq.symm, Eq.trans⟩

end Equality

end Ty

namespace Record

variable [DecidableEq σ]

/-- Records are equal if they have one name and fields with equal outlines. -/
theorem same_iff {r s : Record σ} :
    r.same s = true ↔ r.name = s.name ∧ Ty.outlineFields r.fields = Ty.outlineFields s.fields := by
  rw [same, Bool.and_eq_true, beq_iff_eq, Ty.sameFields_iff]

/-- Equality of records is an equivalence. -/
theorem same_equivalence : Equivalence fun r s : Record σ => r.same s = true := by
  simp only [same_iff]
  exact ⟨fun _ => ⟨rfl, rfl⟩, fun h => ⟨h.1.symm, h.2.symm⟩,
    fun h h' => ⟨h.1.trans h'.1, h.2.trans h'.2⟩⟩

/-- Equal records make equal types. -/
theorem toTy_same {r s : Record σ} (h : r.same s = true) (m n : Nat) :
    (r.toTy m).same (s.toTy n) = true := by
  obtain ⟨hname, hfields⟩ := same_iff.1 h
  rw [Ty.same_iff, toTy, toTy, Ty.outline, Ty.outline, hname, hfields]
  rfl

end Record

/-! ## Building -/

variable [StepMeaning σ]

/-- An envelope and its outline build alike around bodies that do. -/
theorem Envelope.build_outline (e : Envelope σ) {body body' : Value → Outcome}
    (h : ∀ u, (body u).Alike (body' u)) (v : Value) :
    (e.outline.build body v).Alike (e.build body' v) := by
  refine Outcome.Alike.recover ?_ e.fallback
  -- the outline lets the same nulls through and has the same steps
  rcases e.trichotomy v with hnull | ⟨err, hrefuses⟩ | ⟨u, hpasses⟩
  · rw [attempt_null hnull, attempt_null (e := e.outline) hnull]
    exact .ok rfl
  · have houtline : e.outline.Refuses v err := ⟨hrefuses.kept, hrefuses.run⟩
    rw [hrefuses.attempt, houtline.attempt]
    exact .error err
  · have houtline : e.outline.Passes v u := ⟨hpasses.kept, hpasses.run⟩
    rw [hpasses.attempt, houtline.attempt]
    exact h u

theorem Outcome.Alike.refl (o : Outcome) : o.Alike o :=
  (Alike.equivalence Value.same_equivalence).refl o

/-- Items that are built alike one by one are built alike. -/
theorem buildItems_alike {build build' : Value → Outcome} {vs : List Value}
    (h : ∀ v, (build v).Alike (build' v)) (i : Nat) :
    Alike (fun ws ws' => Value.sameItems ws ws' = true) (buildItems build i vs)
      (buildItems build' i vs) := by
  induction vs generalizing i with
  | nil => exact .ok rfl
  | cons v vs ih =>
    have hv := h v
    have hvs := ih (i + 1)
    rw [buildItems, buildItems]
    generalize build v = o at hv ⊢
    generalize build' v = o' at hv ⊢
    generalize buildItems build (i + 1) vs = p at hvs ⊢
    generalize buildItems build' (i + 1) vs = p' at hvs ⊢
    cases hv with
    | error e => exact .error _
    | ok hv =>
      cases hvs with
      | error e => exact .error e
      | ok hvs => exact .ok (by rw [Value.sameItems, hv, hvs]; rfl)

namespace Ty

/-- Fields whose types build like their outlines are built alike. -/
theorem buildFields_outline {fields : List (String × Ty σ)}
    (h : ∀ f t, (f, t) ∈ fields → ∀ v, (t.outline.build v).Alike (t.build v))
    (input : Entries Value) :
    Alike (fun es es' => Value.sameFields es es' = true)
      (buildFields (outlineFields fields) input) (buildFields fields input) := by
  induction fields with
  | nil => exact .ok rfl
  | cons p fields ih =>
    obtain ⟨f, t⟩ := p
    rw [outlineFields, buildFields, buildFields, name_outline]
    cases input.get? f with
    | none => exact .error _
    | some v =>
      have hv := h f t List.mem_cons_self v
      have hrest := ih fun g u hmem => h g u (List.mem_cons_of_mem _ hmem)
      simp only
      generalize t.outline.build v = o at hv ⊢
      generalize t.build v = o' at hv ⊢
      generalize buildFields (outlineFields fields) input = p at hrest ⊢
      generalize buildFields fields input = p' at hrest ⊢
      cases hv with
      | error e => exact .error _
      | ok hv =>
        cases hrest with
        | error e => exact .error e
        | ok hrest =>
          refine .ok ?_
          rw [Value.sameFields_iff] at hrest ⊢
          rw [Value.normalFields_insert, Value.normalFields_insert, hrest, Value.same_iff.1 hv]

/-- **A type builds like its outline.** -/
theorem build_outline (t : Ty σ) (v : Value) : (t.outline.build v).Alike (t.build v) := by
  induction t generalizing v with
  | plain e k => exact e.build_outline (fun u => .refl (k.check u)) v
  | list e m ih =>
    refine e.build_outline ?_ v
    intro u
    cases u with
    | arr items => exact Alike.map (f := Value.arr) (fun _ _ h => h) (buildItems_alike ih 0)
    | null | bool | int | float | str | obj => exact .refl _
  | record e schema fields ih =>
    refine e.build_outline ?_ v
    intro u
    cases u with
    | obj input => exact Alike.map (f := Value.obj) (fun _ _ h => h) (buildFields_outline ih input)
    | null | bool | int | float | str | arr => exact .refl _

/-- Types of one outline build alike. -/
theorem build_alike_of_outline {a b : Ty σ} (h : a.outline = b.outline) (v : Value) :
    (a.build v).Alike (b.build v) := by
  have halike := Alike.equivalence Value.same_equivalence
  have ha := a.build_outline v
  rw [h] at ha
  exact halike.trans (halike.symm ha) (b.build_outline v)

end Ty

namespace Record

variable [DecidableEq σ]

/-- Equal records validate alike. -/
theorem validate_alike {r s : Record σ} (h : r.same s = true) (input : Entries Value) :
    Alike (fun es fs => Value.sameFields es fs = true) (r.validate input) (s.validate input) := by
  have houtline : ∀ q : Record σ, Alike (fun es fs => Value.sameFields es fs = true)
      (Ty.buildFields (Ty.outlineFields q.fields) input) (q.validate input) :=
    fun q => Ty.buildFields_outline (fun _ t _ => t.build_outline) input
  have halike := Alike.equivalence Value.sameFields_equivalence
  have hr := houtline r
  rw [(same_iff.1 h).2] at hr
  exact halike.trans (halike.symm hr) (houtline s)

end Record

namespace Ty

variable [DecidableEq σ]

/-- **Equality is an equivalence and a congruence**, on types and on records: whatever the numbers
    drawn for the results, equal types stay equal under each operation with equal arguments, equal
    records have equal types, and equal types and records make equal values of a value, or fail on
    it with one error. -/
theorem same_is_congruence :
    Equivalence (fun a b : Ty σ => a.same b = true) ∧
    Equivalence (fun r s : Record σ => r.same s = true) ∧
    (∀ a b : Ty σ, a.same b = true →
      (∀ m n name, (a.named m name).same (b.named n name) = true) ∧
      (∀ m n, (a.optional m).same (b.optional n) = true) ∧
      (∀ m n v w, v.same w = true → (a.withFallback m v).same (b.withFallback n w) = true) ∧
      (∀ m n c d, c.same d = true → Agree (a.withMember m c) (b.withMember n d)) ∧
      ∀ v, (a.build v).Alike (b.build v)) ∧
    ∀ r s : Record σ, r.same s = true →
      (∀ m n, (r.toTy m).same (s.toTy n) = true) ∧
      ∀ input, Alike (fun es fs => Value.sameFields es fs = true) (r.validate input)
        (s.validate input) := by
  refine ⟨same_equivalence, Record.same_equivalence, ?_, ?_⟩
  · intro a b h
    have houtline : a.outline = b.outline := same_iff.1 h
    refine ⟨?_, ?_, ?_, ?_, build_alike_of_outline houtline⟩
    · intro m n name
      rw [same_iff, outline_named, outline_named, houtline]
    · intro m n
      rw [same_iff, outline_optional, outline_optional, houtline]
    · intro m n v w hvw
      rw [same_iff, outline_withFallback, outline_withFallback, houtline, Value.same_iff.1 hvw]
    · intro m n c d hcd
      exact withMember_agree h hcd m n
  · intro r s h
    exact ⟨Record.toTy_same h, Record.validate_alike h⟩

/-- Two lists whose members have the two zeros as their fallbacks. -/
theorem same_is_congruence_at_zeros :
    let positive : Ty Empty := (nominal 0 .string).withFallback 1 (.float (.zero false))
    let negative : Ty Empty := (nominal 2 .string).withFallback 3 (.float (.zero true))
    let t : Ty Empty := list ⟨4, "array<string>", [], false, none⟩ positive
    let u : Ty Empty := list ⟨5, "array<string>", [], false, none⟩ negative
    t.same u = true ∧ (t.build (.arr [.null])).Alike (u.build (.arr [.null])) ∧
      ((t.named 6 "texts").same (u.named 7 "texts") = true) := by
  intro positive negative t u
  have h : t.same u = true := rfl
  obtain ⟨hnamed, -, -, -, hbuild⟩ := same_is_congruence.2.2.1 t u h
  exact ⟨h, hbuild _, hnamed 6 7 "texts"⟩

end Ty

end ValueTypes
