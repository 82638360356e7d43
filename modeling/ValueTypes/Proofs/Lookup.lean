/-
  Look-ups in the registry: what they give, and what they leave behind.

  A look-up changes the registry in one way only: a factory that has not run yet runs, and its type
  is kept under the same registration.  `Registry.Advances r r'` says that `r'` is `r` after some
  such changes (`Registry.AdvancesAt` says it of one key), and `Registry.Answers r key o` that `o` is what the registry says of a key with no
  factory left to run for it.  The two facts that everything later rests on are `resolve_answers`
  (a look-up advances the registry, and gives what the registry answers from then on) and
  `Answers.advance` (an answer is never taken back by later look-ups).
-/
import ValueTypes.Registry

namespace ValueTypes

variable {σ : Type}

/-! ## Bindings -/

namespace Binding

/-- The type that is bound, unless a factory is still to make it. -/
def settled? : Binding σ → Option (Ty σ)
  | type t => some t
  | lazy _ _ built => built

/-- What look-ups can make of a binding: nothing, or the factory has run on some number. -/
inductive Advances : Binding σ → Binding σ → Prop where
  | refl (b : Binding σ) : Advances b b
  | run (factory : Factory σ) (ticket next : Nat) :
    Advances (lazy factory ticket none) (lazy factory ticket (some (factory next).1))

theorem Advances.trans {a b c : Binding σ} (hab : a.Advances b) (hbc : b.Advances c) :
    a.Advances c := by
  cases hab with
  | refl => exact hbc
  | run factory ticket next =>
    cases hbc with
    | refl => exact .run factory ticket next

theorem Advances.settled {a b : Binding σ} (h : a.Advances b) {t : Ty σ}
    (ht : a.settled? = some t) : b.settled? = some t := by
  cases h with
  | refl => exact ht
  | run factory ticket next => cases ht

/-- What is not settled is a factory that has not run. -/
theorem eq_lazy_of_settled? {b : Binding σ} (h : b.settled? = none) :
    ∃ factory ticket, b = lazy factory ticket none := by
  cases b with
  | type t => cases h
  | lazy factory ticket built => exact ⟨factory, ticket, by rw [show built = none from h]⟩

end Binding

/-! ## Registries -/

namespace Registry

/-- The type bound to a key, unless a factory is still to make it. -/
def settled? (r : Registry σ) (key : String) : Option (Ty σ) :=
  (r.bindings.get? key).bind Binding.settled?

/-- The binding of a key after some look-ups. -/
def AdvancesAt (r r' : Registry σ) (key : String) : Prop :=
  Option.Rel Binding.Advances (r.bindings.get? key) (r'.bindings.get? key)

theorem AdvancesAt.refl (r : Registry σ) (key : String) : r.AdvancesAt r key := by
  unfold AdvancesAt
  cases r.bindings.get? key with
  | none => exact .none
  | some b => exact .some (.refl b)

theorem AdvancesAt.trans {r s u : Registry σ} {key : String} (hrs : r.AdvancesAt s key)
    (hsu : s.AdvancesAt u key) : r.AdvancesAt u key := by
  unfold AdvancesAt at *
  generalize r.bindings.get? key = a at *
  generalize s.bindings.get? key = b at *
  generalize u.bindings.get? key = c at *
  cases hrs with
  | none =>
    cases hsu with
    | none => exact .none
  | some hab =>
    cases hsu with
    | some hbc => exact .some (hab.trans hbc)

/-- An unbound key stays unbound. -/
theorem AdvancesAt.unbound {r r' : Registry σ} {key : String} (h : r.AdvancesAt r' key)
    (hk : r.bindings.get? key = none) : r'.bindings.get? key = none := by
  rw [AdvancesAt, hk] at h
  generalize r'.bindings.get? key = b at h
  cases h
  rfl

/-- A key that has its type keeps it. -/
theorem AdvancesAt.settled {r r' : Registry σ} {key : String} (h : r.AdvancesAt r' key) {t : Ty σ}
    (hk : r.settled? key = some t) : r'.settled? key = some t := by
  unfold AdvancesAt at h
  unfold settled? at hk ⊢
  generalize r.bindings.get? key = a at h hk
  generalize r'.bindings.get? key = b at h ⊢
  cases h with
  | none => cases hk
  | some hab => exact hab.settled hk

/-- The registry after some look-ups. -/
def Advances (r r' : Registry σ) : Prop :=
  ∀ key, Option.Rel Binding.Advances (r.bindings.get? key) (r'.bindings.get? key)

theorem Advances.refl (r : Registry σ) : r.Advances r := fun key => AdvancesAt.refl r key

theorem Advances.trans {r s u : Registry σ} (hrs : r.Advances s) (hsu : s.Advances u) :
    r.Advances u := fun key => AdvancesAt.trans (hrs key) (hsu key)

theorem Advances.unbound {r r' : Registry σ} (h : r.Advances r') {key : String}
    (hk : r.bindings.get? key = none) : r'.bindings.get? key = none :=
  AdvancesAt.unbound (h key) hk

/-- Look-ups leave a settled key with its type. -/
theorem Advances.settled {r r' : Registry σ} (h : r.Advances r') {key : String} {t : Ty σ}
    (hk : r.settled? key = some t) : r'.settled? key = some t :=
  AdvancesAt.settled (h key) hk

/-- A factory that runs under its key advances the registry. -/
theorem advances_insert_built {r : Registry σ} {key : String} {factory : Factory σ}
    {ticket : Nat} {runs : List Nat} (next : Nat)
    (hk : r.bindings.get? key = some (.lazy factory ticket none)) :
    r.Advances ⟨r.bindings.insert key (.lazy factory ticket (some (factory next).1)), runs⟩ := by
  intro other
  by_cases heq : other = key
  · subst heq
    rw [hk, Dict.get?_insert_self]
    exact .some (.run factory ticket next)
  · rw [Dict.get?_insert_of_ne _ _ heq]
    exact Advances.refl r other

/-- A key that has its type is looked up without any effect. -/
theorem resolve_of_settled? {r : Registry σ} {key : String} {t : Ty σ}
    (h : r.settled? key = some t) (next : Nat) : r.resolve next key = (.ok t, r, next) := by
  obtain ⟨b, hb, hsettled⟩ := Option.bind_eq_some_iff.1 h
  rw [resolve, hb]
  cases b with
  | type u =>
    cases hsettled
    rfl
  | lazy factory ticket built =>
    cases hsettled
    rfl

/-- What the registry says of a key when no factory is left to run for it. -/
inductive Answers (r : Registry σ) (key : String) : Except TypeError (Ty σ) → Prop where
  | bound {t : Ty σ} (h : r.settled? key = some t) : Answers r key (.ok t)
  | unbound (h : r.bindings.get? key = none) : Answers r key (.error (.unknownType key))

/-- A key has one answer at most. -/
theorem Answers.unique {r : Registry σ} {key : String} {o o' : Except TypeError (Ty σ)}
    (h : r.Answers key o) (h' : r.Answers key o') : o = o' := by
  cases h with
  | bound ht =>
    cases h' with
    | bound hu => rw [Option.some.inj (ht.symm.trans hu)]
    | unbound hn =>
      rw [settled?, hn] at ht
      cases ht
  | unbound hn =>
    cases h' with
    | bound hu =>
      rw [settled?, hn] at hu
      cases hu
    | unbound _ => rfl

/-- Later look-ups take no answer back. -/
theorem Answers.advance {r r' : Registry σ} (hadv : r.Advances r') {key : String}
    {o : Except TypeError (Ty σ)} (h : r.Answers key o) : r'.Answers key o := by
  cases h with
  | bound ht => exact .bound (hadv.settled ht)
  | unbound hn => exact .unbound (hadv.unbound hn)

/-- The answer of a key whose factory had not run is a type that the factory made. -/
theorem Answers.made {r r' : Registry σ} {key : String} (hadv : r.AdvancesAt r' key)
    {factory : Factory σ} {ticket : Nat}
    (hk : r.bindings.get? key = some (.lazy factory ticket none))
    {o : Except TypeError (Ty σ)} (h : r'.Answers key o) : ∃ n, o = .ok (factory n).1 := by
  rw [AdvancesAt, hk] at hadv
  cases h with
  | unbound hn =>
    rw [hn] at hadv
    cases hadv
  | bound ht =>
    rw [settled?] at ht
    generalize r'.bindings.get? key = b at hadv ht
    cases hadv with
    | some hab =>
      cases hab with
      | refl => cases ht
      | run factory ticket n => exact ⟨n, congrArg Except.ok (Option.some.inj ht).symm⟩

/-- **A look-up** advances the registry and gives what the registry answers from then on; the supply
    of numbers does not go back. -/
theorem resolve_answers {r r' : Registry σ} {next next' : Nat} {key : String}
    {o : Except TypeError (Ty σ)} (h : r.resolve next key = (o, r', next')) :
    r.Advances r' ∧ r'.Answers key o ∧ next ≤ next' := by
  unfold resolve at h
  split at h
  · rename_i hk
    cases h
    exact ⟨.refl r, .unbound hk, Nat.le_refl _⟩
  · rename_i t hk
    cases h
    exact ⟨.refl r, .bound (by rw [settled?, hk]; rfl), Nat.le_refl _⟩
  · rename_i factory ticket t hk
    cases h
    exact ⟨.refl r, .bound (by rw [settled?, hk]; rfl), Nat.le_refl _⟩
  · rename_i factory ticket hk
    cases h
    -- the factory runs now, and the key has its type from then on
    refine ⟨advances_insert_built _ hk, .bound ?_, Nat.le_max_left _ _⟩
    rw [settled?, Dict.get?_insert_self]
    rfl

end Registry

end ValueTypes
