/-
  What a type gives conforms to it.

  `Ty.Conforms t w` says what the values of a type look like from the outside: they are its
  fallback, or null if it is optional, or of its kind, with items that conform to the members of a
  list and with exactly the declared fields of a record, each of which conforms to its type.  Nothing
  is said of the steps, which may do anything: they run before the body, and it is the body that
  conforms (`conforms_of_body`).  The main result is an induction on the type (`build_conforms`).

  Only lists have members and only records have fields, so no value slips through between a kind and
  the parts that are checked for it (`conforms_iff`).
-/
import ValueTypes.Proofs.Build

namespace ValueTypes.Ty

variable {σ : Type}

/-! ## Conformance -/

/-- The value is one that the type stands for. -/
inductive Conforms : Ty σ → Value → Prop where
  | fallback {t : Ty σ} {w : Value} (h : t.fallback = some w) : Conforms t w
  | null {t : Ty σ} (h : t.isOptional = true) : Conforms t .null
  | plain {e : Envelope σ} {k : Kind} {w : Value} (h : k.accepts w = true) :
    Conforms (.plain e k) w
  | list {e : Envelope σ} {m : Ty σ} {items : List Value} (h : ∀ x ∈ items, Conforms m x) :
    Conforms (.list e m) (.arr items)
  /-- The object has each declared field, once, and no others. -/
  | record {e : Envelope σ} {schema : String} {fields : List (String × Ty σ)}
    {es : Entries Value} (hsorted : es.Sorted)
    (hkeys : ∀ f, f ∈ es.map Prod.fst ↔ f ∈ fields.map Prod.fst)
    (h : ∀ f t x, Entries.get? f fields = some t → es.get? f = some x → Conforms t x) :
    Conforms (.record e schema fields) (.obj es)

/-- Conformance through the parts of a type: its fallback, its kind, its schema and its members. -/
theorem conforms_iff {t : Ty σ} {w : Value} :
    t.Conforms w ↔ t.fallback = some w ∨ (t.isOptional = true ∧ w = .null) ∨
      (t.kind.accepts w = true ∧
        (∀ schema fields, t.schema? = some (schema, fields) → ∃ es : Entries Value,
          w = .obj es ∧ es.Sorted ∧ (∀ f, f ∈ es.map Prod.fst ↔ f ∈ fields.map Prod.fst) ∧
            ∀ f u x, Entries.get? f fields = some u → es.get? f = some x → u.Conforms x) ∧
        (∀ m, t.member? = some m → ∃ items, w = .arr items ∧ ∀ x ∈ items, m.Conforms x)) := by
  constructor
  · intro h
    cases h with
    | fallback h => exact .inl h
    | null h => exact .inr (.inl ⟨h, rfl⟩)
    | plain h => exact .inr (.inr ⟨h, nofun, nofun⟩)
    | list h =>
      refine .inr (.inr ⟨rfl, nofun, ?_⟩)
      rintro m hm
      cases hm
      exact ⟨_, rfl, h⟩
    | record hsorted hkeys h =>
      refine .inr (.inr ⟨rfl, ?_, nofun⟩)
      intro schema fields hs
      cases hs
      exact ⟨_, rfl, hsorted, hkeys, h⟩
  · rintro (h | ⟨h, rfl⟩ | ⟨hkind, hschema, hmember⟩)
    · exact .fallback h
    · exact .null h
    · cases t with
      | plain e k => exact .plain hkind
      | list e m =>
        obtain ⟨items, rfl, h⟩ := hmember m rfl
        exact .list h
      | record e schema fields =>
        obtain ⟨es, rfl, hsorted, hkeys, h⟩ := hschema schema fields rfl
        exact .record hsorted hkeys h

/-! ## Building -/

variable [StepMeaning σ]

/-- What an envelope adds to a body conforms, so the body is what matters. -/
theorem conforms_of_body {t : Ty σ} (hbody : ∀ {u w}, t.body u = .ok w → t.Conforms w)
    {v w : Value} (h : t.build v = .ok w) : t.Conforms w := by
  rw [build_eq] at h
  rcases Envelope.build_eq_ok h with hfallback | ⟨hoptional, rfl⟩ | ⟨u, hu⟩
  · exact .fallback hfallback
  · exact .null hoptional
  · exact hbody hu

/-- What a list builds conforms item by item, if its members do. -/
theorem buildItems_conform {m : Ty σ} (hm : ∀ {v w}, m.build v = .ok w → m.Conforms w) {i : Nat}
    {items ws : List Value} (h : buildItems m.build i items = .ok ws) :
    ∀ w ∈ ws, m.Conforms w := by
  have hbuilt := buildItems_eq_ok_iff.1 h
  -- items and results go side by side, so the induction is on their pairing
  clear h
  induction hbuilt with
  | nil => exact nofun
  | cons hw _ ih =>
    intro x hx
    rcases List.mem_cons.1 hx with rfl | hx
    · exact hm hw
    · exact ih x hx

/-- What a record builds has the declared fields, each of which conforms, if their types do. -/
theorem buildFields_conform {fields : List (String × Ty σ)}
    (hfields : ∀ {f t}, (f, t) ∈ fields → ∀ {v w}, t.build v = .ok w → t.Conforms w)
    {input out : Entries Value} (h : buildFields fields input = .ok out) :
    (∀ f, f ∈ out.map Prod.fst ↔ f ∈ fields.map Prod.fst) ∧
      ∀ f t x, Entries.get? f fields = some t → out.get? f = some x → t.Conforms x := by
  obtain ⟨-, hrel⟩ := buildFields_eq_ok h
  refine ⟨buildFields_keys h, ?_⟩
  intro f t x ht hx
  have hf := hrel f
  rw [ht, hx] at hf
  cases hf with
  | some hb =>
    obtain ⟨v, -, hv⟩ := hb
    exact hfields (Entries.mem_of_get? ht) hv

/-- **Building is sound**: whatever a type gives conforms to it. -/
theorem build_conforms (t : Ty σ) {v w : Value} (h : t.build v = .ok w) : t.Conforms w := by
  induction t generalizing v w with
  | plain e k =>
    refine conforms_of_body ?_ h
    intro u w hbody
    obtain ⟨rfl, hkind⟩ := Kind.check_eq_ok_iff.1 hbody
    exact .plain hkind
  | list e m ih =>
    refine conforms_of_body ?_ h
    intro u w hbody
    obtain ⟨items, ws, rfl, hitems, rfl⟩ := body_list_eq_ok_iff.1 hbody
    exact .list (buildItems_conform ih hitems)
  | record e schema fields ih =>
    refine conforms_of_body ?_ h
    intro u w hbody
    obtain ⟨input, out, rfl, hout, rfl⟩ := body_record_eq_ok_iff.1 hbody
    obtain ⟨hkeys, hvalues⟩ := buildFields_conform (fun hmem => ih _ _ hmem) hout
    exact .record (buildFields_eq_ok hout).1 hkeys hvalues

/-- A list whose second item is replaced by the fallback of its members. -/
theorem build_conforms_at_list :
    let m : Ty Empty := (nominal 0 .string).withFallback 1 (.str "?")
    let t := list ⟨2, "array<string>", [], false, none⟩ m
    t.build (.arr [.str "a", .null]) = .ok (.arr [.str "a", .str "?"]) ∧
      t.Conforms (.arr [.str "a", .str "?"]) := by
  intro m t
  have h : t.build (.arr [.str "a", .null]) = .ok (.arr [.str "a", .str "?"]) := rfl
  exact ⟨h, build_conforms t h⟩

end ValueTypes.Ty
