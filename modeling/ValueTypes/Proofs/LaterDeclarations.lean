/-
  Later declarations do not disturb earlier ones.

  The context of a configuration comes about declaration by declaration, so the context of its first
  declarations is one that it goes through (`Config.declareAll_append_eq_ok_iff`).  What comes after
  binds the keys of its own names and leaves all others as they are
  (`Config.declareAll_advancesAt`).  A described context has no factory left to run
  (`Registry.Settled`), so a key that is left alone has the very same type before and after.

  * A spec that mentions none of the later keys is made of the same types in both contexts.  The
    composites are made anew, with numbers of their own, and no more than that can differ: two such
    types have one name and build every value alike (`Ty.Twin`), and attaching members hands this on
    from level to level (`Ty.withMember_twins`).
  * The fields of a declared record are resolved when it is declared, and the type that is registered
    holds the types that came out.  It stays under its key until that key is declared again, whatever
    becomes of the keys that its fields mentioned.
-/
import ValueTypes.Proofs.Atomicity
import ValueTypes.Proofs.Widening

namespace ValueTypes

variable {σ : Type}

/-! ## Types that differ in their numbers only -/

namespace Ty

variable [StepMeaning σ]

/-- Two types with one name that build every value alike. -/
structure Twin (t t' : Ty σ) : Prop where
  name : t.name = t'.name
  build : ∀ v, t.build v = t'.build v

theorem Twin.refl (t : Ty σ) : t.Twin t := ⟨rfl, fun _ => rfl⟩

/-- Both outcomes are one error, or both are types that build alike. -/
def Twins : Except TypeError (Ty σ) → Except TypeError (Ty σ) → Prop
  | .ok t, .ok t' => t.Twin t'
  | .error e, .error e' => e = e'
  | _, _ => False

theorem Twins.refl : ∀ o : Except TypeError (Ty σ), Twins o o
  | .ok t => Twin.refl t
  | .error _ => rfl

/-- A twin of a type is a type. -/
theorem Twins.exists_ok {o : Except TypeError (Ty σ)} {t : Ty σ} (h : Twins o (.ok t)) :
    ∃ u, o = .ok u ∧ u.Twin t := by
  cases o with
  | error e => cases h
  | ok u => exact ⟨u, rfl, h⟩

/-- A container takes twins for its members to outcomes that are twins. -/
theorem withMember_twins (u : Ty σ) {m m' : Ty σ} (h : m.Twin m') (serial serial' : Nat) :
    Twins (u.withMember serial m) (u.withMember serial' m') := by
  cases u with
  | plain e k =>
    rw [withMember, withMember]
    cases hk : k.isCollection with
    | true =>
      refine ⟨congrArg (memberName e.name) h.name, fun v => ?_⟩
      have hmember : m.build = m'.build := funext h.build
      rw [Ty.build, Ty.build, hmember]
      rfl
    | false => rfl
  | list e existing => rfl
  | record e schema fields => rfl

theorem twins_lifts : Registry.Lifts (σ := σ) Eq Twins :=
  ⟨fun h => h ▸ .refl _, fun h => h, fun h => h, by
    rintro u u' t t' m n hu ht
    cases hu
    exact withMember_twins u ht m n⟩

end Ty

/-! ## Registries without factories -/

namespace Registry

/-- Every key that is bound has its type. -/
def Settled (r : Registry σ) : Prop :=
  ∀ key, (r.bindings.get? key).isSome = true → ∃ t, r.settled? key = some t

theorem Settled.advance {r r' : Registry σ} (h : r.Settled) (hadv : r.Advances r') :
    r'.Settled := by
  intro key hbound
  rw [hadv.isSome] at hbound
  obtain ⟨t, ht⟩ := h key hbound
  exact ⟨t, hadv.settled ht⟩

theorem Settled.bind {r : Registry σ} (h : r.Settled) (key : String) (t : Ty σ) :
    (r.bind key (.type t)).Settled := by
  intro other hbound
  rw [settled?, Registry.bind, Dict.get?_insert] at *
  by_cases hkey : other = key
  · rw [if_pos hkey]
    exact ⟨t, rfl⟩
  · rw [if_neg hkey] at hbound ⊢
    exact h other hbound

/-- Look-ups make no difference to a key of a registry without factories. -/
theorem Settled.settled?_eq {r r' : Registry σ} (h : r.Settled) {key : String}
    (hadv : r.AdvancesAt r' key) : r'.settled? key = r.settled? key := by
  cases hk : r.bindings.get? key with
  | none => rw [settled?, settled?, hadv.unbound hk, hk]
  | some b =>
    obtain ⟨t, ht⟩ := h key (Option.isSome_iff_exists.2 ⟨b, hk⟩)
    rw [hadv.settled ht, ht]

/-- A key has one answer, however look-ups go on from a registry without factories. -/
theorem Settled.answers_eq {r a b : Registry σ} (h : r.Settled) {key : String}
    (ha : r.AdvancesAt a key) (hb : r.AdvancesAt b key) {o o' : Except TypeError (Ty σ)}
    (ho : a.Answers key o) (ho' : b.Answers key o') : o = o' := by
  cases hk : r.bindings.get? key with
  | none => rw [ho.unique (.unbound (ha.unbound hk)), ho'.unique (.unbound (hb.unbound hk))]
  | some b =>
    obtain ⟨t, ht⟩ := h key (Option.isSome_iff_exists.2 ⟨b, hk⟩)
    rw [ho.unique (.bound (ha.settled ht)), ho'.unique (.bound (hb.settled ht))]

end Registry

namespace Context

/-- A key that has its type resolves to it. -/
theorem resolve_of_settled {ctx : Context σ} (hcoh : ctx.Coherent) {key : String}
    (hkey : TypeSpec.IsKey key) {t : Ty σ} (h : ctx.registry.settled? key = some t) :
    (ctx.resolve key).1 = .ok t := by
  have hparse : TypeSpec.parse key = .ok (.simple key) :=
    TypeSpec.parse_eq_ok_iff.2 ⟨⟨hkey, Nat.zero_le _⟩, rfl⟩
  have hsettled := (resolve_grows ctx key).registry.settled h
  cases resolve_denotes hcoh hparse with
  | key hans => exact hans.unique (.bound hsettled)

/-- The name refers to the type that stands under its key. -/
theorem refers_of_settled {ctx : Context σ} (hcoh : ctx.Coherent) {name : String} {t : Ty σ}
    (h : ctx.registry.settled? (identifier name) = some t) : ctx.Refers name t := by
  constructor
  · intro hname
    exact ⟨_, Prod.ext (resolve_of_settled hcoh ((isKey_identifier_iff name).2 hname) h) rfl⟩
  · intro hname
    obtain ⟨fault, hsplit⟩ := TypeSpec.split_of_not_isKey (open_not_mem_identifier name)
      (mt (isKey_identifier_iff name).1 hname)
    exact ⟨fault, resolve_of_malformed hcoh (TypeSpec.parse_eq_error_iff.2 hsplit)⟩

/-- Contexts that have the same answers for the keys of a text resolve it to twins. -/
theorem resolve_twins [StepMeaning σ] {before after : Context σ} (hbefore : before.Coherent)
    (hafter : after.Coherent) (hsettled : before.registry.Settled) {s : String}
    (hadv : ∀ key, TypeSpec.MentionedIn key s → before.registry.AdvancesAt after.registry key) :
    Ty.Twins (before.resolve s).1 (after.resolve s).1 := by
  cases hparse : TypeSpec.parse s with
  | error e =>
    rw [resolve_of_malformed hbefore hparse, resolve_of_malformed hafter hparse]
    exact .refl _
  | ok spec =>
    refine (resolve_denotes hbefore hparse).related Ty.twins_lifts ?_
      (resolve_denotes hafter hparse)
    intro key hkey o o' ho ho'
    have hlater : before.registry.AdvancesAt (after.resolve s).2.registry key :=
      (hadv key ⟨spec, hparse, hkey⟩).trans ((resolve_grows after s).registry key)
    exact hsettled.answers_eq ((resolve_grows before s).registry key) hlater ho ho'

end Context

/-! ## Runs of declarations -/

/-- The fields of a declaration, each with the reference to its type. -/
def Declaration.references (d : Declaration) : List (String × TypeRef σ) :=
  d.fields.map fun f => (f.name, .spec f.spec)

/-- The declared fields under their names, each with a type to which its spec resolves in the
    context, up to the numbers of the types. -/
def Context.ResolvesFields [StepMeaning σ] (ctx : Context σ) (declared : List FieldDeclaration)
    (fields : List (String × Ty σ)) : Prop :=
  List.Forall₂ (fun f p => p.1 = f.name ∧ ∃ u, (ctx.resolve f.spec).1 = .ok u ∧ u.Twin p.2)
    declared fields

/-- Fields are resolved one after another, and each gets what it would get as the first. -/
theorem Context.resolvesFields_of_resolveFields [StepMeaning σ] {start ctx : Context σ}
    (hstart : start.Coherent) (hsettled : start.registry.Settled) (hcoh : ctx.Coherent)
    (hgrows : start.Grows ctx) {declared : List FieldDeclaration} {fields : List (String × Ty σ)}
    (h : (ctx.resolveFields (declared.map fun f => (f.name, .spec f.spec))).1 = .ok fields) :
    start.ResolvesFields declared fields := by
  induction declared generalizing ctx fields with
  | nil =>
    cases h
    exact .nil
  | cons f declared ih =>
    obtain ⟨t, rest, ht, hrest, rfl⟩ := resolveFields_cons_eq_ok_iff.1 h
    have htwins : Ty.Twins (start.resolve f.spec).1 (.ok t) := by
      have hresolve : (ctx.resolve f.spec).1 = .ok t := ht
      rw [← hresolve]
      exact resolve_twins hstart hcoh hsettled fun key _ => hgrows.registry key
    exact .cons ⟨rfl, htwins.exists_ok⟩
      (ih (resolve_coherent hcoh f.spec) (hgrows.trans (resolve_grows ctx f.spec)) hrest)

namespace Config

/-- Declarations are made one list after the other. -/
theorem declareAll_append_eq_ok_iff {xs ys : List Declaration} {ctx after : Context σ} :
    declareAll ctx (xs ++ ys) = .ok after ↔
      ∃ mid, declareAll ctx xs = .ok mid ∧ declareAll mid ys = .ok after := by
  induction xs generalizing ctx with
  | nil => simp [declareAll]
  | cons d xs ih =>
    rw [List.cons_append, declareAll_cons_eq_ok_iff]
    constructor
    · rintro ⟨t, next, hd, h⟩
      obtain ⟨mid, hmid, hafter⟩ := ih.1 h
      exact ⟨mid, declareAll_cons_eq_ok_iff.2 ⟨t, next, hd, hmid⟩, hafter⟩
    · rintro ⟨mid, hmid, hafter⟩
      obtain ⟨t, next, hd, hmid⟩ := declareAll_cons_eq_ok_iff.1 hmid
      exact ⟨t, next, hd, ih.2 ⟨mid, hmid, hafter⟩⟩

/-- One declaration leaves every key alone but that of its name. -/
theorem defineRecord_advancesAt {ctx after : Context σ} {name : String}
    {fields : List (String × TypeRef σ)} {t : Ty σ}
    (h : ctx.defineRecord name fields = (.ok t, after)) {key : String}
    (hne : key ≠ identifier name) : ctx.registry.AdvancesAt after.registry key := by
  obtain ⟨mid, hres, rfl⟩ := Context.defineRecord_eq_ok h
  exact Registry.AdvancesAt.bind (hres.grows.registry key) hne (.type t)

/-- Declarations leave a key that none of them declares as it was, look-ups apart. -/
theorem declareAll_advancesAt {ds : List Declaration} {ctx after : Context σ}
    (h : declareAll ctx ds = .ok after) {key : String}
    (hfree : ∀ d ∈ ds, key ≠ identifier d.name) :
    ctx.registry.AdvancesAt after.registry key := by
  induction ds generalizing ctx with
  | nil =>
    cases h
    exact .refl _ _
  | cons d ds ih =>
    obtain ⟨t, next, hd, h⟩ := declareAll_cons_eq_ok_iff.1 h
    rw [List.forall_mem_cons] at hfree
    exact (defineRecord_advancesAt hd hfree.1).trans (ih h hfree.2)

/-- Declarations add no factories. -/
theorem declareAll_settled {ds : List Declaration} {ctx after : Context σ}
    (hsettled : ctx.registry.Settled) (h : declareAll ctx ds = .ok after) :
    after.registry.Settled := by
  induction ds generalizing ctx with
  | nil =>
    cases h
    exact hsettled
  | cons d ds ih =>
    obtain ⟨t, next, hd, h⟩ := declareAll_cons_eq_ok_iff.1 h
    obtain ⟨mid, hres, rfl⟩ := Context.defineRecord_eq_ok hd
    exact ih ((hsettled.advance hres.grows.registry).bind _ t) h

/-- The built-in names are bound to types from the start. -/
theorem baseContext_settled (c : Config) : (c.baseContext (σ := σ)).registry.Settled := by
  intro key hbound
  unfold baseContext at hbound ⊢
  split at hbound
  · rename_i hbuiltins
    rw [if_pos hbuiltins]
    obtain ⟨b, hb⟩ := Option.isSome_iff_exists.1 hbound
    rcases Builtins.bound_of_install hb with ⟨t, rfl, -⟩ | hbefore
    · refine ⟨t, ?_⟩
      rw [Registry.settled?]
      exact congrArg (Option.bind · Binding.settled?) hb
    · cases hbefore
  · cases hbound

/-- The type of a declared record stays under its key as long as the key is not declared again. -/
theorem declared_settled {d : Declaration} {ds : List Declaration} {ctx next after : Context σ}
    {t : Ty σ} (hd : ctx.defineRecord d.name d.references = (.ok t, next))
    (h : declareAll next ds = .ok after)
    (hfree : ∀ e ∈ ds, identifier d.name ≠ identifier e.name) :
    after.registry.settled? (identifier d.name) = some t := by
  obtain ⟨mid, -, rfl⟩ := Context.defineRecord_eq_ok hd
  refine (declareAll_advancesAt h hfree).settled ?_
  rw [Registry.settled?]
  exact congrArg (Option.bind · Binding.settled?) (mid.register_bound (identifier d.name) t)

/-- A declared record holds the types that the specs of its fields had in the context before. -/
theorem exists_schema_of_defineRecord {d : Declaration} {ctx next : Context σ} {t : Ty σ}
    (hd : ctx.defineRecord d.name d.references = (.ok t, next)) :
    ∃ fields, (ctx.resolveFields d.references).1 = .ok fields ∧
      t.schema? = some (d.name, fields) := by
  obtain ⟨r, hr, rfl⟩ := Context.defineRecord_eq_ok_iff.1 (congrArg Prod.fst hd)
  obtain ⟨hname, hfields⟩ := Context.buildRecord_eq_ok_iff.1 hr
  exact ⟨r.fields, hfields, congrArg (fun name => some (name, r.fields)) hname⟩

/-! ## Main result -/

/-- **Later declarations do not disturb earlier ones.**  If a configuration has a context, so has the
    one with its first declarations only.  A text that mentions no key that is declared later
    resolves in both to one error, or to types with one name that build every value alike; a key that
    is not declared later has the same type in both; and a record whose key is not declared again
    is referred to in both as one type, which holds its declared fields, each with the type to which
    its spec resolved when the record was declared. -/
theorem later_declarations_keep_earlier [StepMeaning σ] {c : Config} (xs ys : List Declaration)
    {ctx : Context σ} (hsplit : c.declarations = xs ++ ys) (h : c.context = .ok ctx) :
    ∃ earlier : Context σ, context { c with declarations := xs } = .ok earlier ∧
      (∀ s, (∀ d ∈ ys, ¬TypeSpec.MentionedIn (identifier d.name) s) →
        Ty.Twins (earlier.resolve s).1 (ctx.resolve s).1) ∧
      (∀ key, (∀ d ∈ ys, key ≠ identifier d.name) →
        ctx.registry.settled? key = earlier.registry.settled? key) ∧
      ∀ before d after, xs = before ++ d :: after →
        (∀ e ∈ after ++ ys, identifier d.name ≠ identifier e.name) →
        ∃ made fields t, context { c with declarations := before } = .ok made ∧
          (made.resolveFields d.references).1 = .ok fields ∧ t.schema? = some (d.name, fields) ∧
          made.ResolvesFields d.fields fields ∧
          earlier.registry.settled? (identifier d.name) = some t ∧
          ctx.registry.settled? (identifier d.name) = some t ∧
          earlier.Refers d.name t ∧ ctx.Refers d.name t := by
  rw [context, hsplit] at h
  obtain ⟨earlier, hearlier, hlater⟩ := declareAll_append_eq_ok_iff.1 h
  have hcoh : earlier.Coherent := declareAll_coherent c.baseContext_coherent hearlier
  have hcoh' : ctx.Coherent := declareAll_coherent hcoh hlater
  have hsettled : earlier.registry.Settled := declareAll_settled c.baseContext_settled hearlier
  refine ⟨earlier, hearlier, ?_, ?_, ?_⟩
  · intro s hfree
    refine Context.resolve_twins hcoh hcoh' hsettled ?_
    intro key hkey
    refine declareAll_advancesAt hlater ?_
    rintro d hd rfl
    exact hfree d hd hkey
  · intro key hfree
    exact hsettled.settled?_eq (declareAll_advancesAt hlater hfree)
  · rintro before d after rfl hfree
    obtain ⟨made, hmade, hrest⟩ := declareAll_append_eq_ok_iff.1 hearlier
    obtain ⟨t, next, hd, hafter⟩ := declareAll_cons_eq_ok_iff.1 hrest
    obtain ⟨fields, hfields, hschema⟩ := exists_schema_of_defineRecord hd
    have ht : earlier.registry.settled? (identifier d.name) = some t :=
      declared_settled hd hafter fun e he => hfree e (List.mem_append_left ys he)
    have ht' : ctx.registry.settled? (identifier d.name) = some t :=
      declared_settled hd (declareAll_append_eq_ok_iff.2 ⟨earlier, hafter, hlater⟩) hfree
    have hresolves : made.ResolvesFields d.fields fields :=
      Context.resolvesFields_of_resolveFields (declareAll_coherent c.baseContext_coherent hmade)
        (declareAll_settled c.baseContext_settled hmade)
        (declareAll_coherent c.baseContext_coherent hmade) (.refl made) hfields
    exact ⟨made, fields, t, hmade, hfields, hschema, hresolves, ht, ht',
      Context.refers_of_settled hcoh ht, Context.refers_of_settled hcoh' ht'⟩

/-- The key that the field of a record mentions is declared again after the record. -/
theorem later_declarations_keep_earlier_at_field :
    let doc : Declaration := ⟨"Doc", [⟨"body", "string"⟩]⟩
    let again : Declaration := ⟨"String", []⟩
    let c : Config := ⟨⟨true, false, false⟩, .pretty, [doc] ++ [again]⟩
    ∃ ctx earlier : Context Empty, c.context = .ok ctx ∧
      context { c with declarations := [doc] } = .ok earlier ∧
      Ty.Twins (earlier.resolve "array<doc>").1 (ctx.resolve "array<doc>").1 ∧
      ∃ (made : Context Empty) (fields : List (String × Ty Empty)) (t : Ty Empty),
        context { c with declarations := [] } = .ok made ∧ t.schema? = some ("Doc", fields) ∧
        made.ResolvesFields doc.fields fields ∧ earlier.Refers "Doc" t ∧ ctx.Refers "Doc" t := by
  intro doc again c
  obtain ⟨ctx, hctx⟩ : ∃ ctx : Context Empty, c.context = .ok ctx := ⟨_, rfl⟩
  obtain ⟨earlier, hearlier, htwins, -, hrecords⟩ :=
    later_declarations_keep_earlier [doc] [again] rfl hctx
  have hstring : identifier "String" = "string" := by decide +kernel
  have hdoc : identifier "Doc" = "doc" := by decide +kernel
  refine ⟨ctx, earlier, hctx, hearlier, htwins "array<doc>" ?_, ?_⟩
  · intro d hd
    rw [List.mem_singleton.1 hd]
    show ¬TypeSpec.MentionedIn (identifier "String") "array<doc>"
    rw [hstring]
    rintro ⟨spec, hparse, hm⟩
    have hspec : TypeSpec.parse "array<doc>" = .ok (.parametric "array" (.simple "doc")) := rfl
    rw [← Except.ok.inj (hspec.symm.trans hparse)] at hm
    exact absurd hm (by decide)
  · have hfree : ∀ e ∈ [] ++ [again], identifier doc.name ≠ identifier e.name := by
      intro e he
      rw [List.mem_singleton.1 he]
      show identifier "Doc" ≠ identifier "String"
      rw [hdoc, hstring]
      decide
    obtain ⟨made, fields, t, hmade, -, hschema, hresolves, -, -, hrefers, hrefers'⟩ :=
      hrecords [] doc [] rfl hfree
    exact ⟨made, fields, t, hmade, hschema, hresolves, hrefers, hrefers'⟩

end Config

end ValueTypes
