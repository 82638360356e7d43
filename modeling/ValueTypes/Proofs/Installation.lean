/-
  What an installation of the built-in types binds.

  The types are registered one after another, so an installation comes down to a list of keys with
  their types (`Builtins.listing`) that is registered in its order (`install_eq`).  Every entry is
  of one of three forms (`Builtin`): a kind is only checked, or null is let through before it, or a
  value is converted before it.

  The types of the conversions are found under their names whatever was bound before
  (`exists_get?_install_coercible`), and they convert a value and check what comes out
  (`build_coercible`).
-/
import ValueTypes.Builtins
import ValueTypes.Proofs.Recovery

namespace ValueTypes

variable {σ : Type}

theorem Entries.get?_append {α : Type} (k : String) (es fs : Entries α) :
    Entries.get? k (es ++ fs) = (es.get? k).or (fs.get? k) := by
  induction es with
  | nil => rfl
  | cons e es ih =>
    obtain ⟨k', v⟩ := e
    rw [List.cons_append, get?, get?, ih]
    split <;> rfl

namespace Registry

/-- The registry after some types are registered, the first first. -/
def registerAll (r : Registry σ) (es : Entries (Ty σ)) : Registry σ :=
  es.foldl (fun r e => r.register e.1 e.2) r

theorem registerAll_append (r : Registry σ) (es fs : Entries (Ty σ)) :
    r.registerAll (es ++ fs) = (r.registerAll es).registerAll fs := List.foldl_append

/-- A key is bound to the last of the types that are registered under it. -/
theorem get?_registerAll (r : Registry σ) (es : Entries (Ty σ)) (key : String) :
    (r.registerAll es).bindings.get? key
      = ((Entries.get? key es.reverse).map Binding.type).or (r.bindings.get? key) := by
  induction es generalizing r with
  | nil => rfl
  | cons e es ih =>
    obtain ⟨k, t⟩ := e
    have hone : (r.register k t).bindings.get? key
        = ((Entries.get? key [(k, t)]).map Binding.type).or (r.bindings.get? key) := by
      rw [register, bind, Dict.get?_insert, Entries.get?]
      split <;> rfl
    rw [show r.registerAll ((k, t) :: es) = (r.register k t).registerAll es from rfl, ih, hone,
      List.reverse_cons, Entries.get?_append]
    cases Entries.get? key es.reverse <;> rfl

end Registry

namespace Builtins

/-- A built-in type under its key. -/
inductive Builtin : String → Ty σ → Prop where
  | strict (next : Nat) (k : Kind) : Builtin k.name (.nominal next k)
  | optional (next : Nat) (k : Kind) :
    Builtin (optionalName k) ((Ty.nominal next k).optional (next + 1))
  | coercible (next : Nat) (c : Coercion) : Builtin (coercibleName c) (coercible next c)

/-! ## The list of an installation -/

def kindListing (ns : Namespaces) (next : Nat) (k : Kind) : Entries (Ty σ) :=
  (if ns.optional then [(optionalName k, (Ty.nominal next k).optional (next + 1))] else []) ++
    [(k.name, .nominal next k)]

def kindsListing (ns : Namespaces) : List Kind → Nat → Entries (Ty σ)
  | [], _ => []
  | k :: ks, next => kindListing ns next k ++ kindsListing ns ks (next + 2)

def coercionsListing : List Coercion → Nat → Entries (Ty σ)
  | [], _ => []
  | c :: cs, next => (coercibleName c, coercible next c) :: coercionsListing cs (next + 2)

/-- The built-in types of the selected namespaces, in the order in which they are registered. -/
def listing (ns : Namespaces) (next : Nat) : Entries (Ty σ) :=
  kindsListing ns Kind.all next ++
    if ns.coercible then coercionsListing coercions (next + 2 * Kind.all.length) else []

theorem installKind_eq (ns : Namespaces) (r : Registry σ) (next : Nat) (k : Kind) :
    installKind ns r next k = r.registerAll (kindListing ns next k) := by
  rw [installKind, kindListing]
  cases ns.optional <;> rfl

/-- Installing kinds registers their listing and draws two numbers for each. -/
theorem installKinds_eq (ns : Namespaces) (ks : List Kind) (r : Registry σ) (next : Nat) :
    installKinds ns ks r next
      = (r.registerAll (kindsListing ns ks next), next + 2 * ks.length) := by
  induction ks generalizing r next with
  | nil => rfl
  | cons k ks ih =>
    rw [installKinds, ih, installKind_eq, kindsListing, Registry.registerAll_append,
      List.length_cons]
    congr 1
    omega

theorem installCoercions_eq (cs : List Coercion) (r : Registry σ) (next : Nat) :
    installCoercions cs r next
      = (r.registerAll (coercionsListing cs next), next + 2 * cs.length) := by
  induction cs generalizing r next with
  | nil => rfl
  | cons c cs ih =>
    rw [installCoercions, ih, coercionsListing, List.length_cons]
    refine Prod.ext rfl ?_
    show next + 2 + 2 * cs.length = next + 2 * (cs.length + 1)
    omega

/-- **An installation** registers its list, and does not take numbers back. -/
theorem install_eq (ns : Namespaces) (r : Registry σ) (next : Nat) :
    (install ns r next).1 = r.registerAll (listing ns next) ∧ next ≤ (install ns r next).2 := by
  rw [install, installKinds_eq, listing, Registry.registerAll_append]
  cases ns.coercible with
  | true =>
    simp only [installCoercions_eq, if_true, true_and]
    omega
  | false => exact ⟨rfl, Nat.le_add_right _ _⟩

/-- What the kinds are listed with is built in. -/
theorem builtin_of_mem_kindsListing {ns : Namespaces} {ks : List Kind} {next : Nat} {key : String}
    {t : Ty σ} (h : (key, t) ∈ kindsListing ns ks next) : Builtin key t := by
  induction ks generalizing next with
  | nil => cases h
  | cons k ks ih =>
    rw [kindsListing, kindListing, List.append_assoc, List.mem_append, List.mem_append] at h
    rcases h with h | h | h
    · split at h
      · cases List.mem_singleton.1 h
        exact .optional next k
      · cases h
    · cases List.mem_singleton.1 h
      exact .strict next k
    · exact ih h

theorem builtin_of_mem_coercionsListing {cs : List Coercion} {next : Nat} {key : String}
    {t : Ty σ} (h : (key, t) ∈ coercionsListing cs next) : Builtin key t := by
  induction cs generalizing next with
  | nil => cases h
  | cons c cs ih =>
    rcases List.mem_cons.1 h with heq | h
    · cases heq
      exact .coercible next c
    · exact ih h

/-- Every entry of the list is a built-in type under its key. -/
theorem builtin_of_mem_listing {ns : Namespaces} {next : Nat} {key : String} {t : Ty σ}
    (h : (key, t) ∈ listing ns next) : Builtin key t := by
  rcases List.mem_append.1 h with h | h
  · exact builtin_of_mem_kindsListing h
  · split at h
    · exact builtin_of_mem_coercionsListing h
    · cases h

/-- What is bound after an installation is a built-in type, or was bound before. -/
theorem bound_of_install {ns : Namespaces} {r : Registry σ} {next : Nat} {key : String}
    {b : Binding σ} (h : (install ns r next).1.bindings.get? key = some b) :
    (∃ t, b = .type t ∧ Builtin key t) ∨ r.bindings.get? key = some b := by
  rw [(install_eq ns r next).1, Registry.get?_registerAll] at h
  cases ht : Entries.get? key (listing (σ := σ) ns next).reverse with
  | none =>
    rw [ht] at h
    exact .inr h
  | some t =>
    rw [ht] at h
    cases h
    have hmem := List.mem_reverse.1 (Entries.mem_of_get? ht)
    exact .inl ⟨t, rfl, builtin_of_mem_listing hmem⟩

/-! ## The conversions -/

/-- The conversions are registered last, so nothing else gets in under their names. -/
theorem exists_get?_install_coercible (optional : Bool) (r : Registry σ) (next : Nat)
    (c : Coercion) :
    ∃ n, (install ⟨optional, true⟩ r next).1.bindings.get? (coercibleName c)
      = some (.type (coercible n c)) := by
  have hlisted : ∀ m, ∃ n, Entries.get? (coercibleName c) (coercionsListing coercions m).reverse
      = some (coercible (σ := σ) n c) := by
    intro m
    cases c with
    | toText => exact ⟨m, rfl⟩
    | toInteger => exact ⟨m + 2, rfl⟩
    | toFloat => exact ⟨m + 4, rfl⟩
  obtain ⟨n, hn⟩ := hlisted (next + 2 * Kind.all.length)
  refine ⟨n, ?_⟩
  rw [(install_eq _ _ _).1, Registry.get?_registerAll, listing, if_pos rfl, List.reverse_append,
    Entries.get?_append, hn]
  rfl

/-- A type of a conversion converts the value and checks what comes out. -/
theorem build_coercible [StepMeaning σ] (n : Nat) (c : Coercion) (v : Value) :
    (coercible n c : Ty σ).build v
      = match c.apply v with
        | .ok w => c.kind.check w
        | .error e => .error e := by
  have hrun : Step.runAll (σ := σ) [⟨n, .coerce c⟩] v = c.apply v := Step.runAll_singleton _ v
  rw [← hrun]
  exact Outcome.recover_none _

/-- Where a conversion reads a value, the type gives what is read, and refuses the value if nothing
    is. -/
theorem build_coercible_of_reading [StepMeaning σ] {α : Type} (n : Nat) {c : Coercion} {v : Value}
    {make : α → Value} {read : Option α} (hmake : ∀ a, c.kind.accepts (make a) = true)
    (hsome : ∀ a, read = some a → c.apply v = .ok (make a))
    (hnone : read = none → c.apply v = c.refuse v) :
    (∀ w, (coercible n c : Ty σ).build v = .ok w ↔ ∃ a, read = some a ∧ w = make a) ∧
      ∀ e, (coercible n c : Ty σ).build v = .error e ↔
        read = none ∧ e = .invalidValue none v c.kind.name := by
  cases hread : read with
  | none =>
    have hbuild : (coercible n c : Ty σ).build v = .error (.invalidValue none v c.kind.name) := by
      rw [build_coercible, hnone hread]
      rfl
    rw [hbuild]
    simp [eq_comm]
  | some a =>
    have hbuild : (coercible n c : Ty σ).build v = .ok (make a) := by
      rw [build_coercible, hsome a hread]
      exact Kind.check_eq_ok_iff.2 ⟨rfl, hmake a⟩
    rw [hbuild]
    simp [eq_comm]

end Builtins

end ValueTypes
