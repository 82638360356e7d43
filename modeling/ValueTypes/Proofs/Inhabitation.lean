/-
  Types that only check: which values they take, and what is left of them.

  A type is strict (`Ty.Strict`) if no level of it has a step or a fallback.  Such a type has a plain
  meaning: the values that inhabit it (`Ty.Inhabits`) are those of its kind whose items and declared
  fields inhabit the types of these, and null if it is optional.  Building gives such a value back
  with the fields that no record declares left out (`Ty.prune`), and refuses every other value.

  The envelope of a strict type lets null through or hands the value to the body as it is
  (`Envelope.Strict.build`), so each level is a fact about its body (`build_eq_ok_iff_of_body`):

  * the items of a list are built one by one, each to its pruned form (`buildItems_eq_ok_iff_prune`);
  * the fields of a record are built one by one and put together anew, and an object is in the order
    of its keys, so what is put together is the old object without the other entries
    (`buildFields_eq_ok_iff_prune`).

  Below no record nothing is left out (`prune_eq_self`).
-/
import ValueTypes.Proofs.Build

namespace ValueTypes

/-! ## Objects -/

namespace Entries

variable {α β : Type}

/-- The entries that `g` gives a new value, with this value. -/
def revise (g : String → α → Option β) (es : Entries α) : Entries β :=
  es.filterMap fun e => (g e.1 e.2).map (e.1, ·)

theorem Sorted.revise {es : Entries α} (h : es.Sorted) (g : String → α → Option β) :
    (es.revise g).Sorted := by
  refine List.Pairwise.filterMap _ ?_ h
  intro a b hab a' ha b' hb
  obtain ⟨_, -, rfl⟩ := Option.map_eq_some_iff.1 ha
  obtain ⟨_, -, rfl⟩ := Option.map_eq_some_iff.1 hb
  exact hab

/-- A revised list holds the entries that the revision keeps, with the new values. -/
theorem mem_revise {g : String → α → Option β} {es : Entries α} {k : String} {w : β} :
    (k, w) ∈ es.revise g ↔ ∃ v, (k, v) ∈ es ∧ g k v = some w := by
  simp [revise]

theorem Sorted.get?_eq_some_iff {es : Entries α} (h : es.Sorted) {k : String} {v : α} :
    es.get? k = some v ↔ (k, v) ∈ es := ⟨mem_of_get?, h.get?_of_mem⟩

/-- A sorted list has one value for a key, so look-up revises what look-up finds. -/
theorem Sorted.get?_revise {es : Entries α} (h : es.Sorted) (g : String → α → Option β)
    (k : String) : (es.revise g).get? k = (es.get? k).bind (g k) := by
  ext w
  rw [(h.revise g).get?_eq_some_iff, mem_revise, Option.bind_eq_some_iff]
  simp only [h.get?_eq_some_iff]

end Entries

namespace Value

theorem canonicalItems_iff {vs : List Value} : CanonicalItems vs ↔ ∀ v ∈ vs, v.Canonical := by
  induction vs with
  | nil => simp [CanonicalItems]
  | cons v vs ih => rw [CanonicalItems, ih, List.forall_mem_cons]

theorem canonicalFields_iff {fs : List (String × Value)} :
    CanonicalFields fs ↔ ∀ p ∈ fs, p.2.Canonical := by
  induction fs with
  | nil => simp [CanonicalFields]
  | cons p fs ih => rw [CanonicalFields, ih, List.forall_mem_cons]

theorem Canonical.item {items : List Value} (h : (arr items).Canonical) {x : Value}
    (hx : x ∈ items) : x.Canonical := canonicalItems_iff.1 h x hx

theorem Canonical.field {fields : List (String × Value)} (h : (obj fields).Canonical) {f : String}
    {x : Value} (hx : Entries.get? f fields = some x) : x.Canonical :=
  canonicalFields_iff.1 h.2 _ (Entries.mem_of_get? hx)

end Value

/-! ## Strict types -/

variable {σ : Type}

/-- Nothing happens to a value before the body, nor to an error after it. -/
structure Envelope.Strict (e : Envelope σ) : Prop where
  steps : e.steps = []
  fallback : e.fallback = none

theorem Envelope.Strict.build [StepMeaning σ] {e : Envelope σ} (h : e.Strict)
    (body : Value → Outcome) (v : Value) :
    e.build body v = if e.optional && v.isNull then .ok .null else body v := by
  have hrun : Step.runAll e.steps v = .ok v := by rw [h.steps, Step.runAll]
  rw [Envelope.build, Envelope.attempt, h.fallback, hrun]
  cases e.optional && v.isNull with
  | true => rfl
  | false => cases hbody : body v <;> simp [Outcome.recover, hbody]

namespace Ty

/-- No level of the type has a step or a fallback. -/
inductive Strict : Ty σ → Prop where
  | plain {e : Envelope σ} {k : Kind} (h : e.Strict) : Strict (.plain e k)
  | list {e : Envelope σ} {m : Ty σ} (h : e.Strict) (hm : Strict m) : Strict (.list e m)
  | record {e : Envelope σ} {schema : String} {fields : List (String × Ty σ)} (h : e.Strict)
    (hfields : ∀ f t, (f, t) ∈ fields → Strict t) : Strict (.record e schema fields)

/-- The values that a type without steps and fallbacks is meant for. -/
inductive Inhabits : Ty σ → Value → Prop where
  | null {t : Ty σ} (h : t.isOptional = true) : Inhabits t .null
  | plain {e : Envelope σ} {k : Kind} {v : Value} (h : k.accepts v = true) :
    Inhabits (.plain e k) v
  | list {e : Envelope σ} {m : Ty σ} {items : List Value} (h : ∀ x ∈ items, Inhabits m x) :
    Inhabits (.list e m) (.arr items)
  /-- The object has each declared field, whatever other keys there are. -/
  | record {e : Envelope σ} {schema : String} {fields : List (String × Ty σ)}
    {input : Entries Value} (hkeys : ∀ f t, (f, t) ∈ fields → (input.get? f).isSome = true)
    (h : ∀ f t x, (f, t) ∈ fields → input.get? f = some x → Inhabits t x) :
    Inhabits (.record e schema fields) (.obj input)

/-- The value is of the kind of the type, its declared fields inhabit their types, and its items
    inhabit the type of the members. -/
structure Fits (t : Ty σ) (v : Value) : Prop where
  kind : t.kind.accepts v = true
  fields : ∀ schema fields, t.schema? = some (schema, fields) → ∃ input : Entries Value,
    v = .obj input ∧ ∀ f u, (f, u) ∈ fields → ∃ x, input.get? f = some x ∧ u.Inhabits x
  items : ∀ m, t.member? = some m → ∃ items, v = .arr items ∧ ∀ x ∈ items, m.Inhabits x

theorem fits_plain_iff {e : Envelope σ} {k : Kind} {v : Value} :
    (plain e k).Fits v ↔ k.accepts v = true :=
  ⟨fun h => h.kind, fun h => ⟨h, nofun, nofun⟩⟩

/-- A list type fits the arrays of its inhabitants. -/
theorem fits_list_iff {e : Envelope σ} {m : Ty σ} {v : Value} :
    (list e m).Fits v ↔ ∃ items, v = .arr items ∧ ∀ x ∈ items, m.Inhabits x := by
  constructor
  · intro h
    exact h.items m rfl
  · rintro ⟨items, rfl, h⟩
    refine ⟨rfl, nofun, ?_⟩
    rintro m hm
    cases hm
    exact ⟨items, rfl, h⟩

/-- A record type fits the objects whose declared fields inhabit their types. -/
theorem fits_record_iff {e : Envelope σ} {schema : String} {fields : List (String × Ty σ)}
    {v : Value} : (record e schema fields).Fits v ↔ ∃ input : Entries Value,
      v = .obj input ∧ ∀ f u, (f, u) ∈ fields → ∃ x, input.get? f = some x ∧ u.Inhabits x := by
  constructor
  · intro h
    exact h.fields schema fields rfl
  · rintro ⟨input, rfl, h⟩
    refine ⟨rfl, ?_, nofun⟩
    rintro schema fields hs
    cases hs
    exact ⟨input, rfl, h⟩

/-- A value inhabits a type if it is a null that the type lets through, or fits its parts. -/
theorem inhabits_iff {t : Ty σ} {v : Value} :
    t.Inhabits v ↔ (t.isOptional = true ∧ v = .null) ∨ t.Fits v := by
  constructor
  · intro h
    cases h with
    | null h => exact .inl ⟨h, rfl⟩
    | plain h => exact .inr (fits_plain_iff.2 h)
    | list h => exact .inr (fits_list_iff.2 ⟨_, rfl, h⟩)
    | record hkeys h =>
      refine .inr (fits_record_iff.2 ⟨_, rfl, ?_⟩)
      intro f u hmem
      obtain ⟨x, hx⟩ := Option.isSome_iff_exists.1 (hkeys f u hmem)
      exact ⟨x, hx, h f u x hmem hx⟩
  · rintro (⟨h, rfl⟩ | hfits)
    · exact .null h
    · cases t with
      | plain e k => exact .plain (fits_plain_iff.1 hfits)
      | list e m =>
        obtain ⟨items, rfl, h⟩ := fits_list_iff.1 hfits
        exact .list h
      | record e schema fields =>
        obtain ⟨input, rfl, h⟩ := fits_record_iff.1 hfits
        refine .record ?_ ?_
        · intro f u hmem
          obtain ⟨x, hx, -⟩ := h f u hmem
          rw [hx]
          rfl
        · intro f u x hmem hx
          obtain ⟨y, hy, hinh⟩ := h f u hmem
          rw [hx] at hy
          cases hy
          exact hinh

/-! ## Pruning -/

mutual

/-- The value without the fields that no record of the type declares. -/
def prune : Ty σ → Value → Value
  | list _ m, .arr items => .arr (items.map m.prune)
  | record _ _ fields, .obj input => .obj (Entries.revise (pruneField fields) input)
  | _, v => v

/-- The value of a field by the type of its first declaration, or none if it is not declared. -/
def pruneField : List (String × Ty σ) → String → Value → Option Value
  | [], _, _ => none
  | (g, t) :: fields, f, x => if f = g then some (t.prune x) else pruneField fields f x

end

theorem prune_null (t : Ty σ) : t.prune .null = .null := by cases t <;> rw [prune] <;> nofun

theorem pruneField_eq (fields : List (String × Ty σ)) (f : String) :
    pruneField fields f = fun x => (Entries.get? f fields).map fun t => t.prune x := by
  funext x
  induction fields with
  | nil => rfl
  | cons p fields ih =>
    obtain ⟨g, t⟩ := p
    rw [pruneField, Entries.get?]
    split
    · rfl
    · exact ih

/-- Where no level is a record nothing is left out. -/
theorem prune_eq_self {t : Ty σ} (h : ∀ u ∈ t.chain, u.schema? = none) (v : Value) :
    t.prune v = v := by
  induction t generalizing v with
  | plain e k => rw [prune] <;> nofun
  | list e m ih =>
    have hm : m.prune = id := by
      funext x
      exact ih (fun u hu => h u (List.mem_cons_of_mem _ hu)) x
    cases v with
    | arr items => rw [prune, hm, List.map_id]
    | null | bool | int | float | str | obj => rw [prune] <;> nofun
  | record e schema fields => cases h _ List.mem_cons_self

/-! ## Building -/

variable [StepMeaning σ]

/-- A strict level takes what it lets through and what its body takes. -/
theorem build_eq_ok_iff_of_body {t : Ty σ} (h : t.envelope.Strict) {v w : Value}
    (hbody : t.body v = .ok w ↔ t.Fits v ∧ w = t.prune v) :
    t.build v = .ok w ↔ t.Inhabits v ∧ w = t.prune v := by
  rw [build_eq, h.build, inhabits_iff]
  cases hnull : t.envelope.optional && v.isNull with
  | true =>
    obtain ⟨hoptional, hv⟩ := Bool.and_eq_true_iff.1 hnull
    cases v with
    | null => simp [prune_null, isOptional, hoptional, eq_comm]
    | bool | int | float | str | arr | obj => cases hv
  | false =>
    -- the value reaches the body, so it has to fit
    have hkept : ¬(t.isOptional = true ∧ v = .null) := by
      rintro ⟨hoptional, rfl⟩
      rw [show t.envelope.optional = true from hoptional] at hnull
      cases hnull
    rw [or_iff_right hkept, ← hbody]
    simp

/-- Items are built when all of them inhabit the member type, each into its pruned form. -/
theorem buildItems_eq_ok_iff_prune {m : Ty σ} {items : List Value}
    (hm : ∀ x ∈ items, ∀ w, m.build x = .ok w ↔ m.Inhabits x ∧ w = m.prune x) {i : Nat}
    {ws : List Value} : buildItems m.build i items = .ok ws ↔
      (∀ x ∈ items, m.Inhabits x) ∧ ws = items.map m.prune := by
  rw [buildItems_eq_ok_iff]
  induction items generalizing ws with
  | nil => simp [eq_comm]
  | cons x items ih =>
    have hrest := @ih fun y hy => hm y (List.mem_cons_of_mem _ hy)
    rw [List.forall₂_cons_left_iff, List.forall_mem_cons, List.map_cons]
    constructor
    · rintro ⟨w, ws, hw, hws, rfl⟩
      obtain ⟨hx, rfl⟩ := (hm x List.mem_cons_self w).1 hw
      obtain ⟨hitems, rfl⟩ := hrest.1 hws
      exact ⟨⟨hx, hitems⟩, rfl⟩
    · rintro ⟨⟨hx, hitems⟩, rfl⟩
      exact ⟨_, _, (hm x List.mem_cons_self _).2 ⟨hx, rfl⟩, hrest.2 ⟨hitems, rfl⟩, rfl⟩

/-- What is built of an object, when each field is built to its pruned value. -/
theorem buildFields_eq_revise {fields : List (String × Ty σ)} {input out : Entries Value}
    (hinput : input.Sorted)
    (hfields : ∀ f t, (f, t) ∈ fields → ∀ w, FieldBuilds input f t w →
      ∃ x, input.get? f = some x ∧ w = t.prune x)
    (hout : buildFields fields input = .ok out) : out = input.revise (pruneField fields) := by
  obtain ⟨hsorted, hrel⟩ := buildFields_eq_ok hout
  refine hsorted.ext (hinput.revise _) ?_
  intro f
  have hf := hrel f
  rw [hinput.get?_revise, pruneField_eq]
  generalize out.get? f = b at hf ⊢
  cases ht : Entries.get? f fields with
  | none =>
    rw [ht] at hf
    cases hf
    cases input.get? f <;> rfl
  | some t =>
    rw [ht] at hf
    cases hf with
    | some hb =>
      obtain ⟨x, hx, rfl⟩ := hfields f t (Entries.mem_of_get? ht) _ hb
      rw [hx]
      rfl

/-- Fields are built when the declared ones inhabit their types, into the pruned input. -/
theorem buildFields_eq_ok_iff_prune {fields : List (String × Ty σ)} {input : Entries Value}
    (hinput : input.Sorted)
    (hfields : ∀ f t, (f, t) ∈ fields → ∀ x, input.get? f = some x → ∀ w,
      t.build x = .ok w ↔ t.Inhabits x ∧ w = t.prune x) {out : Entries Value} :
    buildFields fields input = .ok out ↔
      (∀ f t, (f, t) ∈ fields → ∃ x, input.get? f = some x ∧ t.Inhabits x) ∧
        out = input.revise (pruneField fields) := by
  have hpruned : ∀ {out}, buildFields fields input = .ok out →
      out = input.revise (pruneField fields) := by
    refine buildFields_eq_revise hinput ?_
    rintro f t hmem w ⟨x, hx, hw⟩
    exact ⟨x, hx, ((hfields f t hmem x hx w).1 hw).2⟩
  constructor
  · intro hout
    refine ⟨?_, hpruned hout⟩
    intro f t hmem
    obtain ⟨w, x, hx, hw⟩ := exists_buildFields_eq_ok_iff.1 ⟨out, hout⟩ f t hmem
    exact ⟨x, hx, ((hfields f t hmem x hx w).1 hw).1⟩
  · rintro ⟨hall, rfl⟩
    have hbuilds : ∀ f t, (f, t) ∈ fields → ∃ w, FieldBuilds input f t w := by
      intro f t hmem
      obtain ⟨x, hx, hinh⟩ := hall f t hmem
      exact ⟨t.prune x, x, hx, (hfields f t hmem x hx _).2 ⟨hinh, rfl⟩⟩
    obtain ⟨out, hout⟩ := exists_buildFields_eq_ok_iff.2 hbuilds
    rw [hout, hpruned hout]

/-- One value at a time: building gives the pruned value if it inhabits the type, and else fails. -/
theorem build_eq_ok_iff_prune {t : Ty σ} (hs : t.Strict) {v w : Value} (hv : v.Canonical) :
    t.build v = .ok w ↔ t.Inhabits v ∧ w = t.prune v := by
  induction t generalizing v w with
  | plain e k =>
    cases hs with
    | plain h =>
      refine build_eq_ok_iff_of_body (t := plain e k) h ?_
      rw [fits_plain_iff, and_comm]
      exact Kind.check_eq_ok_iff
  | list e m ih =>
    cases hs with
    | list h hm =>
      refine build_eq_ok_iff_of_body (t := list e m) h ?_
      rw [body_list_eq_ok_iff, fits_list_iff]
      constructor
      · rintro ⟨items, ws, rfl, hws, rfl⟩
        obtain ⟨hitems, rfl⟩ :=
          (buildItems_eq_ok_iff_prune fun x hx w => ih hm (hv.item hx)).1 hws
        exact ⟨⟨items, rfl, hitems⟩, rfl⟩
      · rintro ⟨⟨items, rfl, hitems⟩, rfl⟩
        exact ⟨items, _, rfl,
          (buildItems_eq_ok_iff_prune fun x hx w => ih hm (hv.item hx)).2 ⟨hitems, rfl⟩, rfl⟩
  | record e schema fields ih =>
    cases hs with
    | record h hfields =>
      refine build_eq_ok_iff_of_body (t := record e schema fields) h ?_
      rw [body_record_eq_ok_iff, fits_record_iff]
      constructor
      · rintro ⟨input, out, rfl, hout, rfl⟩
        obtain ⟨hall, rfl⟩ := (buildFields_eq_ok_iff_prune hv.1 fun f t hmem x hx w =>
          ih f t hmem (hfields f t hmem) (hv.field hx)).1 hout
        exact ⟨⟨input, rfl, hall⟩, rfl⟩
      · rintro ⟨⟨input, rfl, hall⟩, rfl⟩
        exact ⟨input, _, rfl, (buildFields_eq_ok_iff_prune hv.1 fun f t hmem x hx w =>
          ih f t hmem (hfields f t hmem) (hv.field hx)).2 ⟨hall, rfl⟩, rfl⟩

/-- **A type that only checks** takes exactly the values that inhabit it, and gives them back pruned;
    if no level is a record, it gives them back as they are. -/
theorem strict_build_exact {t : Ty σ} (hs : t.Strict) {v : Value} (hv : v.Canonical) :
    ((∃ w, t.build v = .ok w) ↔ t.Inhabits v) ∧
    (t.Inhabits v → t.build v = .ok (t.prune v)) ∧
    ((∀ u ∈ t.chain, u.schema? = none) → t.Inhabits v → t.build v = .ok v) := by
  have hexact : t.Inhabits v → t.build v = .ok (t.prune v) :=
    fun h => (build_eq_ok_iff_prune hs hv).2 ⟨h, rfl⟩
  refine ⟨⟨?_, fun h => ⟨_, hexact h⟩⟩, hexact, ?_⟩
  · rintro ⟨w, hw⟩
    exact ((build_eq_ok_iff_prune hs hv).1 hw).1
  · intro hchain h
    have hbuild := hexact h
    rwa [prune_eq_self hchain] at hbuild

/-- A list of optional records, one of which is given with a key that it does not declare. -/
theorem strict_build_exact_at_list :
    let entry : Ty Empty := record ⟨0, "Entry", [], true, none⟩ "Entry" [("a", nominal 1 .string)]
    let t : Ty Empty := list ⟨2, "array<entry>", [], false, none⟩ entry
    let v : Value := .arr [.obj [("a", .str "x"), ("b", .int 1)], .null]
    t.Strict ∧ v.Canonical ∧ t.Inhabits v ∧
      t.build v = .ok (.arr [.obj [("a", .str "x")], .null]) := by
  intro entry t v
  have hentry : entry.Strict := by
    refine .record ⟨rfl, rfl⟩ ?_
    intro f u hmem
    cases List.mem_singleton.1 hmem
    exact .plain ⟨rfl, rfl⟩
  have hs : t.Strict := .list ⟨rfl, rfl⟩ hentry
  have hsorted : Entries.Sorted [("a", Value.str "x"), ("b", .int 1)] :=
    List.pairwise_pair.2 (show "a" < "b" by decide)
  have hv : v.Canonical := ⟨⟨hsorted, trivial, rfl, trivial⟩, trivial, trivial⟩
  obtain ⟨htakes, hexact, -⟩ := strict_build_exact hs hv
  have hinhabits : t.Inhabits v := htakes.1 ⟨_, rfl⟩
  exact ⟨hs, hv, hinhabits, hexact hinhabits⟩

end Ty

end ValueTypes
