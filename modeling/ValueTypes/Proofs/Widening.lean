/-
  The coercible types extend the strict ones.

  A spec is loosened (`TypeSpec.Loosened`) by putting conversions in the place of kinds, `string` by
  `coercible.string` and so on, at any of its keys; the strict spec (`TypeSpec.strict`) is the one
  that is left when all conversions are taken out.  A loosened spec resolves wherever the spec does,
  to a type that keeps the successes (`Ty.KeptBy`): a value that was good before gives what it gave
  before.

  * A conversion leaves alone what is of its kind already (`Coercion.apply_of_accepts`), so under
    each key that was loosened stands a type that keeps the successes of the one before, and it
    takes members wherever that did (`Ty.Widens`).
  * Along the levels of a spec this is handed on from the members to the container
    (`Registry.Denotes.loosened`), by induction on the spec.
  * Fields of a record are resolved one after another, in contexts that only grow, and a context
    with exactly the built-in types stays one (`Context.resolveFields_loosened`).
-/
import ValueTypes.Proofs.Declaration
import ValueTypes.Proofs.Validation

namespace ValueTypes

variable {σ : Type}

/-! ## Conversions -/

/-- A conversion leaves alone what is of its kind. -/
theorem Coercion.apply_of_accepts {c : Coercion} {v : Value} (h : c.kind.accepts v = true) :
    c.apply v = .ok v := by
  cases c with
  | toText =>
    cases v with
    | str => rfl
    | null | bool | int | float | arr | obj => cases h
  | toInteger =>
    cases v with
    | int => rfl
    | null | bool | float | str | arr | obj => cases h
  | toFloat =>
    cases v with
    | int | float => rfl
    | null | bool | str | arr | obj => cases h

namespace Builtins

variable [StepMeaning σ]

theorem build_nominal (n : Nat) (k : Kind) (v : Value) :
    (Ty.nominal n k : Ty σ).build v = k.check v :=
  Outcome.recover_none _

/-- The type of a conversion keeps the successes of the type that only checks its kind. -/
theorem nominal_keptBy_coercible (n m : Nat) (c : Coercion) :
    (Ty.nominal n c.kind : Ty σ).KeptBy (coercible m c) := by
  intro v w hv
  rw [build_nominal] at hv
  obtain ⟨rfl, haccepts⟩ := Kind.check_eq_ok_iff.1 hv
  rw [build_coercible, Coercion.apply_of_accepts haccepts]
  exact hv

end Builtins

/-! ## Types in the place of others -/

namespace Ty

variable [StepMeaning σ]

/-- The second type is the first but for what a level is called, or a conversion to its kind. -/
inductive Widens : Ty σ → Ty σ → Prop where
  | alike {e e' : Envelope σ} (k : Kind) (h : e.SameRun e') (hnone : e.fallback = none) :
    Widens (.plain e k) (.plain e' k)
  | converts (n m : Nat) (c : Coercion) : Widens (.nominal n c.kind) (Builtins.coercible m c)

/-- What a type accepts, a wider one builds the same way. -/
theorem Widens.keptBy {t t' : Ty σ} (h : t.Widens t') : t.KeptBy t' := by
  cases h with
  | alike k h hnone => exact keptBy_plain h hnone k
  | converts n m c => exact Builtins.nominal_keptBy_coercible n m c

/-- Members that keep successes may be attached wherever the members before could. -/
theorem Widens.withMember {t t' m m' u : Ty σ} {serial : Nat} (h : t.Widens t') (hm : m.KeptBy m')
    (hu : t.withMember serial m = .ok u) (serial' : Nat) :
    ∃ u', t'.withMember serial' m' = .ok u' ∧ u.KeptBy u' := by
  cases h with
  | @alike e e' k h hnone =>
    rw [Ty.withMember] at hu ⊢
    cases hk : k.isCollection with
    | true =>
      rw [hk, if_pos rfl] at hu
      cases hu
      exact ⟨_, if_pos rfl, keptBy_list ⟨h.run, h.optional⟩ hnone hm⟩
    | false =>
      rw [hk] at hu
      cases hu
  | converts n n' c =>
    -- no kind that is converted to is a collection
    cases c <;> cases hu

end Ty

/-! ## Loosening -/

namespace Builtins

/-- The second key is the first, or the key of the conversion to the kind of that name. -/
inductive Loosens : String → String → Prop where
  | same (key : String) : Loosens key key
  | conversion (c : Coercion) : Loosens c.kind.name (coercibleName c)

/-- The name of its kind in the place of the key of a conversion. -/
def strictKey (key : String) : String :=
  match coercions.find? fun c => coercibleName c == key with
  | some c => c.kind.name
  | none => key

theorem strictKey_loosens (key : String) : Loosens (strictKey key) key := by
  unfold strictKey
  cases hfind : coercions.find? fun c => coercibleName c == key with
  | none => exact .same key
  | some c =>
    have hfound := List.find?_some hfind
    have hname : coercibleName c = key := beq_iff_eq.1 hfound
    rw [← hname]
    exact .conversion c

theorem Loosens.isKey {key key' : String} (h : Loosens key key') (hkey : TypeSpec.IsKey key') :
    TypeSpec.IsKey key := by
  cases h with
  | same => exact hkey
  | conversion c => exact (Builtin.strict (σ := Empty) 0 c.kind).isKey

end Builtins

namespace TypeSpec

open Builtins

/-- Level by level the second spec has the key of the first or a loosened one. -/
inductive Loosened : TypeSpec → TypeSpec → Prop where
  | simple {key key' : String} (h : Loosens key key') : Loosened (.simple key) (.simple key')
  | parametric {container container' : String} {member member' : TypeSpec}
    (h : Loosens container container') (hmember : Loosened member member') :
    Loosened (.parametric container member) (.parametric container' member')

/-- The spec with every conversion taken out. -/
def strict : TypeSpec → TypeSpec
  | .simple key => .simple (strictKey key)
  | .parametric container member => .parametric (strictKey container) member.strict

example : (parametric "optional.array" (simple "coercible.integer")).strict
    = parametric "optional.array" (simple "integer") := rfl

/-- The strict spec loosens to the spec. -/
theorem strict_loosened (spec : TypeSpec) : spec.strict.Loosened spec := by
  induction spec with
  | simple key => exact .simple (strictKey_loosens key)
  | parametric container member ih => exact .parametric (strictKey_loosens container) ih

theorem Loosened.keyed {spec spec' : TypeSpec} (h : spec.Loosened spec') (hkeyed : spec'.Keyed) :
    spec.Keyed := by
  induction h with
  | simple h => exact h.isKey hkeyed
  | parametric h _ ih => exact ⟨h.isKey hkeyed.1, ih hkeyed.2⟩

theorem Loosened.depth {spec spec' : TypeSpec} (h : spec.Loosened spec') :
    spec.depth = spec'.depth := by
  induction h with
  | simple => rfl
  | parametric _ _ ih => rw [TypeSpec.depth, TypeSpec.depth, ih]

/-- A strict spec may be written as a text if the spec may. -/
theorem parse_strict {s : String} {spec : TypeSpec} (h : parse s = .ok spec) :
    parse spec.strict.render = .ok spec.strict := by
  obtain ⟨⟨hkeyed, hshallow⟩, -⟩ := parse_eq_ok_iff.1 h
  have hloosened := spec.strict_loosened
  refine parse_eq_ok_iff.2 ⟨⟨hloosened.keyed hkeyed, ?_⟩, rfl⟩
  rw [hloosened.depth]
  exact hshallow

end TypeSpec

/-! ## Registries with the built-in types -/

namespace Registry

open Builtins

/-- Exactly the built-in types are registered, in all namespaces. -/
structure HoldsBuiltins (r : Registry σ) : Prop where
  strict : ∀ k : Kind, ∃ n, r.settled? k.name = some (.nominal n k)
  optional : ∀ k : Kind, ∃ n, r.settled? (optionalName k) = some ((Ty.nominal n k).optional (n + 1))
  coercible : ∀ c : Coercion, ∃ n, r.settled? (coercibleName c) = some (coercible n c)
  only : ∀ key, (r.bindings.get? key).isSome = true → ∃ t : Ty σ, Builtin key t

theorem HoldsBuiltins.advance {r r' : Registry σ} (h : r.HoldsBuiltins) (hadv : r.Advances r') :
    r'.HoldsBuiltins := by
  refine ⟨?_, ?_, ?_, ?_⟩
  · intro k
    obtain ⟨n, hn⟩ := h.strict k
    exact ⟨n, hadv.settled hn⟩
  · intro k
    obtain ⟨n, hn⟩ := h.optional k
    exact ⟨n, hadv.settled hn⟩
  · intro c
    obtain ⟨n, hn⟩ := h.coercible c
    exact ⟨n, hadv.settled hn⟩
  · intro key hbound
    rw [hadv.isSome] at hbound
    exact h.only key hbound

variable [StepMeaning σ]

/-- Under a loosened key stands a type in the place of the one before. -/
theorem HoldsBuiltins.loosened {r r' : Registry σ} (hr : r.HoldsBuiltins) (hr' : r'.HoldsBuiltins)
    {key key' : String} (h : Loosens key key') {t : Ty σ} (ht : r.settled? key = some t) :
    ∃ t', r'.settled? key' = some t' ∧ t.Widens t' := by
  cases h with
  | same =>
    have hbound : (r.bindings.get? key).isSome = true := by
      cases hget : r.bindings.get? key with
      | none =>
        rw [settled?, hget] at ht
        cases ht
      | some b => rfl
    -- a key has one form, so the same form stands under it on both sides
    obtain ⟨u, hu⟩ := hr.only key hbound
    cases hu with
    | strict _ k =>
      obtain ⟨n, hn⟩ := hr.strict k
      obtain ⟨n', hn'⟩ := hr'.strict k
      cases ht.symm.trans hn
      exact ⟨_, hn', .alike k ⟨rfl, rfl⟩ rfl⟩
    | optional _ k =>
      obtain ⟨n, hn⟩ := hr.optional k
      obtain ⟨n', hn'⟩ := hr'.optional k
      cases ht.symm.trans hn
      exact ⟨_, hn', .alike k ⟨rfl, rfl⟩ rfl⟩
    | coercible _ c =>
      obtain ⟨n, hn⟩ := hr.coercible c
      obtain ⟨n', hn'⟩ := hr'.coercible c
      cases ht.symm.trans hn
      -- the steps are two, but both are the one conversion
      have hrun : Step.runAll [(⟨n', .coerce c⟩ : Step σ)]
          = Step.runAll [(⟨n, .coerce c⟩ : Step σ)] := by
        funext v
        rw [Step.runAll_singleton, Step.runAll_singleton]
      exact ⟨_, hn', .alike c.kind ⟨hrun, rfl⟩ rfl⟩
  | conversion c =>
    obtain ⟨n, hn⟩ := hr.strict c.kind
    obtain ⟨n', hn'⟩ := hr'.coercible c
    cases ht.symm.trans hn
    exact ⟨_, hn', .converts n n' c⟩

/-- Between built-in names, a loosened key answers with a wider type. -/
theorem HoldsBuiltins.answers {r r' : Registry σ} (hr : r.HoldsBuiltins) (hr' : r'.HoldsBuiltins)
    {key key' : String} (h : Loosens key key') {t : Ty σ} (ht : r.Answers key (.ok t))
    {o : Except TypeError (Ty σ)} (ho : r'.Answers key' o) : ∃ t', o = .ok t' ∧ t.Widens t' := by
  cases ht with
  | bound ht =>
    obtain ⟨t', ht', hwidens⟩ := hr.loosened hr' h ht
    exact ⟨t', ho.unique (.bound ht'), hwidens⟩

/-- **Loosening a spec**: if it denotes a type, the loosened spec denotes one that keeps the
    successes. -/
theorem Denotes.loosened {r r' : Registry σ} (hr : r.HoldsBuiltins) (hr' : r'.HoldsBuiltins)
    {spec spec' : TypeSpec} (h : spec.Loosened spec') {t : Ty σ} (ht : r.Denotes spec (.ok t))
    {o : Except TypeError (Ty σ)} (ho : r'.Denotes spec' o) : ∃ t', o = .ok t' ∧ t.KeptBy t' := by
  induction h generalizing t o with
  | simple h =>
    cases ht with
    | key ht =>
      cases ho with
      | key ho =>
        obtain ⟨t', rfl, hwidens⟩ := hr.answers hr' h ht ho
        exact ⟨t', rfl, hwidens.keptBy⟩
  | parametric h _ ih =>
    cases ht with
    | attached hm hu hattach =>
      cases ho with
      | member hm' =>
        obtain ⟨m', hfails, -⟩ := ih hm hm'
        cases hfails
      | container _ hu' =>
        obtain ⟨u', hfails, -⟩ := hr.answers hr' h hu hu'
        cases hfails
      | @attached _ _ _ _ serial' _ hm' hu' hattach' =>
        obtain ⟨m', hok, hkept⟩ := ih hm hm'
        cases hok
        obtain ⟨u', hok, hwidens⟩ := hr.answers hr' h hu hu'
        cases hok
        rw [hattach']
        exact hwidens.withMember hkept hattach.symm serial'

end Registry

/-- An installation in an empty registry. -/
theorem Builtins.install_holdsBuiltins (next : Nat) :
    (install .all (.empty : Registry σ) next).1.HoldsBuiltins := by
  have hsettled : ∀ key, (install .all (.empty : Registry σ) next).1.settled? key
      = Entries.get? key (listing .all next).reverse := by
    intro key
    rw [Registry.settled?, (install_eq _ _ _).1, Registry.get?_registerAll]
    cases Entries.get? key (listing (σ := σ) .all next).reverse <;> rfl
  refine ⟨?_, ?_, ?_, ?_⟩
  · intro k
    rw [hsettled]
    cases k <;> exact ⟨_, rfl⟩
  · intro k
    rw [hsettled]
    cases k <;> exact ⟨_, rfl⟩
  · intro c
    rw [hsettled]
    cases c <;> exact ⟨_, rfl⟩
  · intro key hbound
    obtain ⟨b, hb⟩ := Option.isSome_iff_exists.1 hbound
    rcases bound_of_install hb with ⟨t, -, hbuiltin⟩ | hbefore
    · exact ⟨t, hbuiltin⟩
    · cases hbefore

/-! ## Records that are built -/

namespace Context

/-- Fields are resolved if the first of them is and then the rest. -/
theorem resolveFields_cons_eq_ok_iff {ctx : Context σ} {f : String} {ref : TypeRef σ}
    {fields : List (String × TypeRef σ)} {ts : List (String × Ty σ)} :
    (ctx.resolveFields ((f, ref) :: fields)).1 = .ok ts ↔
      ∃ t rest, (ctx.resolveRef ref).1 = .ok t ∧
        ((ctx.resolveRef ref).2.resolveFields fields).1 = .ok rest ∧ ts = (f, t) :: rest := by
  rw [resolveFields]
  rcases ctx.resolveRef ref with ⟨o, mid⟩
  cases o with
  | error e => simp
  | ok t =>
    rcases hrest : mid.resolveFields fields with ⟨o', after⟩
    cases o' with
    | error e => simp [hrest]
    | ok rest => simp [hrest, eq_comm]

/-- A record is built if its fields are resolved and no name is declared twice. -/
theorem buildRecord_eq_ok_iff {ctx : Context σ} {name : String}
    {fields : List (String × TypeRef σ)} {r : Record σ} :
    (ctx.buildRecord name fields).1 = .ok r ↔
      r.name = name ∧ (ctx.resolveFields fields).1 = .ok r.fields := by
  rw [buildRecord]
  rcases ctx.resolveFields fields with ⟨o, after⟩
  cases o with
  | error e => simp
  | ok ts =>
    show Record.ofFields name ts = .ok r ↔ _
    rw [Record.ofFields_eq_ok_iff]
    exact and_congr_right fun _ => ⟨fun h => congrArg _ h.symm, fun h => (Except.ok.inj h).symm⟩

/-- A declaration gives the type of the record that is built. -/
theorem defineRecord_eq_ok_iff {ctx : Context σ} {name : String}
    {fields : List (String × TypeRef σ)} {t : Ty σ} :
    (ctx.defineRecord name fields).1 = .ok t ↔
      ∃ r, (ctx.buildRecord name fields).1 = .ok r ∧
        t = r.toTy (ctx.buildRecord name fields).2.next := by
  rw [defineRecord]
  rcases ctx.buildRecord name fields with ⟨o, after⟩
  cases o with
  | error e => simp
  | ok r => simp [eq_comm]

end Context

theorem Record.toTy_keptBy [StepMeaning σ] {r r' : Record σ}
    (h : Ty.FieldsKeptBy r.fields r'.fields) (serial serial' : Nat) :
    (r.toTy serial).KeptBy (r'.toTy serial') := by
  refine Ty.keptBy_record ?_ ?_ h
  · exact ⟨rfl, rfl⟩
  · rfl

/-! ## Contexts -/

/-- The second reference is the first with a loosened spec, or with a type at hand that keeps the
    successes, such as the type of another record with loosened fields. -/
inductive TypeRef.Loosened [StepMeaning σ] : TypeRef σ → TypeRef σ → Prop where
  | spec {s s' : String} {spec spec' : TypeSpec} (hs : TypeSpec.parse s = .ok spec)
    (hs' : TypeSpec.parse s' = .ok spec') (h : spec.Loosened spec') : Loosened (.spec s) (.spec s')
  | type {t t' : Ty σ} (h : t.KeptBy t') : Loosened (.type t) (.type t')

/-- Fields under the same names with loosened references. -/
abbrev FieldsLoosened [StepMeaning σ] (fields fields' : List (String × TypeRef σ)) : Prop :=
  List.Forall₂ (fun p p' => p.1 = p'.1 ∧ p.2.Loosened p'.2) fields fields'

namespace Context

/-- The context has exactly the built-in types, and a cache that goes with them. -/
structure HoldsBuiltins (ctx : Context σ) : Prop where
  coherent : ctx.Coherent
  registry : ctx.registry.HoldsBuiltins

theorem HoldsBuiltins.resolutions {ctx after : Context σ} (h : ctx.HoldsBuiltins)
    (hres : ctx.Resolutions after) : after.HoldsBuiltins :=
  ⟨hres.coherent h.coherent, h.registry.advance hres.grows.registry⟩

variable [StepMeaning σ]

section Loosening

variable {ctx ctx' : Context σ} (hctx : ctx.HoldsBuiltins) (hctx' : ctx'.HoldsBuiltins)
include hctx hctx'

/-- A loosened text resolves to a type that keeps what is built. -/
theorem resolve_loosened {s s' : String} {spec spec' : TypeSpec}
    (hs : TypeSpec.parse s = .ok spec) (hs' : TypeSpec.parse s' = .ok spec')
    (h : spec.Loosened spec') {t : Ty σ} (ht : (ctx.resolve s).1 = .ok t) :
    ∃ t', (ctx'.resolve s').1 = .ok t' ∧ t.KeptBy t' := by
  have hafter := hctx.resolutions (Resolutions.refl.resolve s)
  have hafter' := hctx'.resolutions (Resolutions.refl.resolve s')
  have hden := resolve_denotes hctx.coherent hs
  rw [ht] at hden
  exact hden.loosened hafter.registry hafter'.registry h (resolve_denotes hctx'.coherent hs')

theorem resolveRef_loosened {ref ref' : TypeRef σ} (h : ref.Loosened ref') {t : Ty σ}
    (ht : (ctx.resolveRef ref).1 = .ok t) :
    ∃ t', (ctx'.resolveRef ref').1 = .ok t' ∧ t.KeptBy t' := by
  cases h with
  | spec hs hs' h => exact resolve_loosened hctx hctx' hs hs' h ht
  | type h =>
    cases ht
    exact ⟨_, rfl, h⟩

end Loosening

theorem resolveFields_loosened {fields fields' : List (String × TypeRef σ)}
    (h : FieldsLoosened fields fields') : ∀ {ctx ctx' : Context σ}, ctx.HoldsBuiltins →
      ctx'.HoldsBuiltins → ∀ {ts : List (String × Ty σ)}, (ctx.resolveFields fields).1 = .ok ts →
        ∃ ts', (ctx'.resolveFields fields').1 = .ok ts' ∧ Ty.FieldsKeptBy ts ts' := by
  induction h with
  | nil =>
    intro ctx ctx' _ _ ts hts
    cases hts
    exact ⟨[], rfl, .nil⟩
  | @cons p p' fields fields' hp _ ih =>
    intro ctx ctx' hctx hctx' ts hts
    obtain ⟨f, ref⟩ := p
    obtain ⟨f', ref'⟩ := p'
    obtain ⟨rfl, href⟩ : f = f' ∧ ref.Loosened ref' := hp
    obtain ⟨t, rest, ht, hrest, rfl⟩ := resolveFields_cons_eq_ok_iff.1 hts
    obtain ⟨t', ht', hkept⟩ := resolveRef_loosened hctx hctx' href ht
    -- the rest is resolved in the contexts that the first field leaves
    have hmid := hctx.resolutions (resolveRef_resolutions ctx ref)
    have hmid' := hctx'.resolutions (resolveRef_resolutions ctx' ref')
    obtain ⟨rest', hrest', hrestkept⟩ := ih hmid hmid' hrest
    exact ⟨(f, t') :: rest', resolveFields_cons_eq_ok_iff.2 ⟨t', rest', ht', hrest', rfl⟩,
      .cons ⟨rfl, hkept⟩ hrestkept⟩

/-- A record of loosened fields keeps what is built, field by field. -/
theorem buildRecord_loosened {ctx ctx' : Context σ} (hctx : ctx.HoldsBuiltins)
    (hctx' : ctx'.HoldsBuiltins) {fields fields' : List (String × TypeRef σ)}
    (h : FieldsLoosened fields fields') {name : String} (name' : String) {r : Record σ}
    (hr : (ctx.buildRecord name fields).1 = .ok r) :
    ∃ r', (ctx'.buildRecord name' fields').1 = .ok r' ∧ Ty.FieldsKeptBy r.fields r'.fields := by
  obtain ⟨-, hfields⟩ := buildRecord_eq_ok_iff.1 hr
  obtain ⟨ts', hts', hkept⟩ := resolveFields_loosened h hctx hctx' hfields
  have hnames : r.fields.map Prod.fst = ts'.map Prod.fst := by
    rw [← List.forall₂_eq_eq_eq, List.forall₂_map_left_iff, List.forall₂_map_right_iff]
    exact hkept.imp fun _ _ hp => hp.1
  have hdistinct : (ts'.map Prod.fst).Nodup := by
    rw [← hnames]
    exact r.distinct
  exact ⟨⟨name', ts', hdistinct⟩, buildRecord_eq_ok_iff.2 ⟨rfl, hts'⟩, hkept⟩

/-- **The coercible types extend the strict ones**, in contexts with exactly the built-in types, which
    may be one and the same.  A spec resolves if its strict spec does, to a type that keeps the
    successes.  A record may be declared with loosened fields if it may with the fields as they are,
    and keeps the successes, both in validating objects and as a type. -/
theorem coercible_extends_strict (actions actions' : List (Action σ))
    (h : (empty.after actions).registry.HoldsBuiltins)
    (h' : (empty.after actions').registry.HoldsBuiltins) :
    let ctx := empty.after actions
    let ctx' := empty.after actions'
    (∀ s spec t, TypeSpec.parse s = .ok spec → (ctx.resolve spec.strict.render).1 = .ok t →
      ∃ t', (ctx'.resolve s).1 = .ok t' ∧ ∀ v w, t.build v = .ok w → t'.build v = .ok w) ∧
    ∀ name name' fields fields', FieldsLoosened fields fields' →
      (∀ r, (ctx.buildRecord name fields).1 = .ok r →
        ∃ r', (ctx'.buildRecord name' fields').1 = .ok r' ∧
          ∀ input out, r.validate input = .ok out → r'.validate input = .ok out) ∧
      ∀ t, (ctx.defineRecord name fields).1 = .ok t →
        ∃ t', (ctx'.defineRecord name' fields').1 = .ok t' ∧
          ∀ v w, t.build v = .ok w → t'.build v = .ok w := by
  intro ctx ctx'
  have hctx : ctx.HoldsBuiltins := ⟨reachable_coherent actions, h⟩
  have hctx' : ctx'.HoldsBuiltins := ⟨reachable_coherent actions', h'⟩
  refine ⟨?_, ?_⟩
  · intro s spec t hs ht
    exact resolve_loosened hctx hctx' (TypeSpec.parse_strict hs) hs spec.strict_loosened ht
  · intro name name' fields fields' hfields
    refine ⟨?_, ?_⟩
    · intro r hr
      obtain ⟨r', hr', hkept⟩ := buildRecord_loosened hctx hctx' hfields name' hr
      refine ⟨r', hr', ?_⟩
      intro input out hout
      exact hkept.buildFields_eq_ok hout
    · intro t ht
      obtain ⟨r, hr, rfl⟩ := defineRecord_eq_ok_iff.1 ht
      obtain ⟨r', hr', hkept⟩ := buildRecord_loosened hctx hctx' hfields name' hr
      exact ⟨_, defineRecord_eq_ok_iff.2 ⟨r', hr', rfl⟩, Record.toTy_keptBy hkept _ _⟩

/-- A list of integers, and a record with an integer that may be read from a text. -/
theorem coercible_extends_strict_at_row :
    let ctx : Context Empty := empty.after [.installBuiltins .all]
    let strict : List (String × TypeRef Empty) := [("n", .spec "integer"), ("x", .spec "array")]
    let loosened : List (String × TypeRef Empty) :=
      [("n", .spec "coercible.integer"), ("x", .spec "array")]
    let row : Entries Value := [("n", .int 7), ("x", .arr [])]
    ctx.registry.HoldsBuiltins ∧ FieldsLoosened strict loosened ∧
      (∃ t t', (ctx.resolve "array<integer>").1 = .ok t ∧
        (ctx.resolve "array<coercible.integer>").1 = .ok t' ∧
        t.build (.arr [.int 7]) = .ok (.arr [.int 7]) ∧
        t'.build (.arr [.int 7]) = .ok (.arr [.int 7])) ∧
      ∃ r r', (ctx.buildRecord "Row" strict).1 = .ok r ∧
        (ctx.buildRecord "Row" loosened).1 = .ok r' ∧
        r.validate row = .ok row ∧ r'.validate row = .ok row := by
  intro ctx strict loosened row
  have hholds : ctx.registry.HoldsBuiltins := Builtins.install_holdsBuiltins 0
  have hfields : FieldsLoosened strict loosened := by
    refine .cons ⟨rfl, .spec rfl rfl (.simple (.conversion .toInteger))⟩ (.cons ⟨rfl, ?_⟩ .nil)
    exact .spec rfl rfl (.simple (.same "array"))
  obtain ⟨hspecs, hrecords⟩ := coercible_extends_strict [.installBuiltins .all]
    [.installBuiltins .all] hholds hholds
  refine ⟨hholds, hfields, ?_, ?_⟩
  · let integers : Ty Empty :=
      .list ⟨22, "array<integer>", [], false, none⟩ (.nominal 6 .integer)
    have hstrict : (ctx.resolve "array<integer>").1 = .ok integers := rfl
    obtain ⟨t', ht', hkept⟩ := hspecs "array<coercible.integer>"
      (.parametric "array" (.simple "coercible.integer")) integers rfl hstrict
    have hbuild : integers.build (.arr [.int 7]) = .ok (.arr [.int 7]) := rfl
    exact ⟨integers, t', hstrict, ht', hbuild, hkept _ _ hbuild⟩
  · let r : Record Empty :=
      ⟨"Row", [("n", .nominal 6 .integer), ("x", .nominal 12 .array)], by decide⟩
    have hstrict : (ctx.buildRecord "Row" strict).1 = .ok r := rfl
    obtain ⟨r', hr', hkept⟩ := (hrecords "Row" "Row" strict loosened hfields).1 r hstrict
    have hvalid : r.validate row = .ok row := rfl
    exact ⟨r, r', hstrict, hr', hvalid, hkept _ _ hvalid⟩

end Context

end ValueTypes
