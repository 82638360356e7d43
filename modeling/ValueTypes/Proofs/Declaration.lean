/-
  Referring to a declared type by its key.

  A declaration binds the key of its name and drops what was cached of it, so resolving the key
  gives the declared type, provided that the key may stand in a spec; and that is decided by the
  name alone (`Nameable`).  The key of any other name is bound to a type that no spec reaches
  (`Context.Refers`).

  A context that a configuration describes has the keys of the built-in types, all of which may
  stand in a spec, and those of the declared records.  So all of its keys resolve, and the listing
  of its keys ends well, exactly if every declared name is nameable (`declared_key_resolves_iff`).
-/
import ValueTypes.Proofs.Installation
import ValueTypes.Proofs.Lifetime
import ValueTypes.Proofs.Naming
import ValueTypes.Cli

namespace ValueTypes

variable {σ : Type}

/-! ## Keys as specs -/

namespace TypeSpec

/-- A key is a spec of one level. -/
theorem split_of_isKey {key : String} (h : IsKey key) : split key = .ok ⟨[], key⟩ :=
  split_render (t := simple key) ⟨h, Nat.zero_le _⟩

/-- A text without a `<` is a spec only as a key. -/
theorem eq_simple_of_render {t : TypeSpec} {s : String} (hwf : t.WellFormed) (hrender : t.render = s)
    (hopen : '<' ∉ s.toList) : t = simple s ∧ IsKey s := by
  cases t with
  | simple key =>
    obtain rfl : key = s := hrender
    exact ⟨rfl, hwf.keyed⟩
  | parametric container member =>
    rw [← hrender, render_parametric_toList] at hopen
    exact absurd (List.mem_append_right _ List.mem_cons_self) hopen

/-- A text without brackets that is no key is refused, for one of the known reasons. -/
theorem split_of_not_isKey {key : String} (hopen : '<' ∉ key.toList) (h : ¬IsKey key) :
    ∃ fault : Fault, split key = .error (.malformedSpec key fault.reason) := by
  cases hsplit : split key with
  | ok p =>
    obtain ⟨t, hwf, hrender, -⟩ := split_eq_ok_iff.1 hsplit
    exact absurd (eq_simple_of_render hwf hrender hopen).2 h
  | error e =>
    obtain ⟨fault, rfl⟩ := split_eq_error hsplit
    exact ⟨fault, rfl⟩

end TypeSpec

/-- A key takes part in the entry under its own text. -/
theorem Cache.involves_self {key : String} (hopen : '<' ∉ key.toList) : Involves key key := by
  cases hparse : TypeSpec.parse key with
  | ok spec =>
    obtain ⟨hwf, hrender⟩ := TypeSpec.parse_eq_ok_iff.1 hparse
    obtain ⟨rfl, -⟩ := TypeSpec.eq_simple_of_render hwf hrender hopen
    exact .spec hparse (List.mem_singleton.2 rfl)
  | error e => exact .text hparse rfl

/-- Look-ups neither bind keys nor unbind them. -/
theorem Registry.Advances.isSome {r r' : Registry σ} (h : r.Advances r') (key : String) :
    (r'.bindings.get? key).isSome = (r.bindings.get? key).isSome := by
  have hrel := h key
  generalize r.bindings.get? key = a at hrel ⊢
  generalize r'.bindings.get? key = b at hrel ⊢
  cases hrel with
  | none => rfl
  | some _ => rfl

/-! ## Declarations -/

namespace Context

/-- The name refers to a type: the key of a nameable name resolves to it, and any other key is
    refused as a spec, which changes nothing. -/
def Refers (ctx : Context σ) (name : String) (t : Ty σ) : Prop :=
  (Nameable name → ∃ after, ctx.resolve (identifier name) = (.ok t, after)) ∧
  (¬Nameable name → ∃ fault : TypeSpec.Fault,
    ctx.resolve (identifier name)
      = (.error (.malformedSpec (identifier name) fault.reason), ctx))

/-- The key of a name that is bound to a type, and of which nothing is cached. -/
theorem refers_of_bound {ctx : Context σ} {name : String} {t : Ty σ}
    (hfresh : ctx.cache.get? (identifier name) = none)
    (hbound : ctx.registry.settled? (identifier name) = some t) : ctx.Refers name t := by
  constructor
  · intro hname
    have hsplit := TypeSpec.split_of_isKey ((isKey_identifier_iff name).2 hname)
    have hresolve : ctx.resolve (identifier name)
        = ctx.fetchOrBuild (identifier name) fun ctx => ctx.lookup (identifier name) := by
      simp only [resolve, hfresh, hsplit, resolveLevels]
    refine ⟨ctx.withCache (ctx.cache.insert (identifier name) t), ?_⟩
    simp only [hresolve, fetchOrBuild, Cache.fetchOrBuild, hfresh, lookup_of_settled? hbound,
      Cache.store]
  · intro hname
    obtain ⟨fault, hsplit⟩ := TypeSpec.split_of_not_isKey (open_not_mem_identifier name)
      (mt (isKey_identifier_iff name).1 hname)
    refine ⟨fault, ?_⟩
    simp only [resolve, hfresh, hsplit]

/-- A registered key is bound to the type. -/
theorem register_bound (ctx : Context σ) (key : String) (t : Ty σ) :
    (ctx.register key t).registry.bindings.get? key = some (.type t) :=
  Dict.get?_insert_self _ _ _

/-- Binding the key of a name to a type makes the name refer to it, whatever numbers are drawn. -/
theorem register_refers (ctx : Context σ) (name : String) (t : Ty σ) (next : Nat) :
    { ctx.register (identifier name) t with next := next }.Refers name t := by
  refine refers_of_bound ?_ ?_
  · exact Cache.get?_invalidate_of_involves _ (Cache.involves_self (open_not_mem_identifier name))
  · rw [Registry.settled?, register_bound]
    rfl

/-- A class is registered under the key of its name, and two numbers are drawn for its type. -/
theorem registerClass_eq (ctx : Context σ) (className : String) (kind : Kind) (op : σ) :
    ∃ t, ctx.registerClass className kind op
      = (identifier className, { ctx.register (identifier className) t with next := ctx.next + 2 }) :=
  ⟨_, rfl⟩

/-- A declaration that succeeds has resolved its fields, and then registers the type. -/
theorem defineRecord_eq_ok {ctx after : Context σ} {name : String}
    {fields : List (String × TypeRef σ)} {t : Ty σ}
    (h : ctx.defineRecord name fields = (.ok t, after)) :
    ∃ mid, ctx.Resolutions mid ∧
      after = { mid.register (identifier name) t with next := mid.next + 1 } := by
  obtain ⟨mid, hres, ⟨e, h'⟩ | ⟨u, h'⟩⟩ := defineRecord_cases ctx name fields
  · rw [h'] at h
    cases h
  · rw [h'] at h
    cases h
    exact ⟨mid, hres, rfl⟩

/-- The name of a declared record refers to its type. -/
theorem defineRecord_refers {ctx after : Context σ} {name : String}
    {fields : List (String × TypeRef σ)} {t : Ty σ}
    (h : ctx.defineRecord name fields = (.ok t, after)) : after.Refers name t := by
  obtain ⟨mid, -, rfl⟩ := defineRecord_eq_ok h
  exact register_refers mid name t _

/-! ## Bound keys -/

/-- A bound key resolves exactly if it may stand in a spec. -/
theorem resolve_bound_ok_iff {ctx : Context σ} (hcoh : ctx.Coherent) {key : String}
    (hbound : (ctx.registry.bindings.get? key).isSome = true) (hopen : '<' ∉ key.toList) :
    (∃ t, (ctx.resolve key).1 = .ok t) ↔ TypeSpec.IsKey key := by
  rcases resolve_resolved hcoh key with ⟨e, hparse, hrefused⟩ | ⟨spec, hparse, hres⟩
  · refine iff_of_false ?_ ?_
    · rintro ⟨t, ht⟩
      rw [hrefused] at ht
      cases ht
    · intro hkey
      rw [TypeSpec.parse_eq_error_iff, TypeSpec.split_of_isKey hkey] at hparse
      cases hparse
  · obtain ⟨hwf, hrender⟩ := TypeSpec.parse_eq_ok_iff.1 hparse
    obtain ⟨rfl, hkey⟩ := TypeSpec.eq_simple_of_render hwf hrender hopen
    refine iff_of_true ?_ hkey
    have hden := hres.denotes
    generalize (ctx.resolve key).1 = o at hden ⊢
    cases hden with
    | key hans =>
      cases hans with
      | bound ht => exact ⟨_, rfl⟩
      | unbound hn =>
        rw [← (resolve_grows ctx key).registry.isSome, hn] at hbound
        cases hbound

end Context

/-! ## Contexts that are described -/

/-- The keys of the built-in types may stand in specs. -/
theorem Builtins.Builtin.isKey {key : String} {t : Ty σ} (h : Builtins.Builtin key t) :
    TypeSpec.IsKey key := by
  cases h with
  | strict next k => cases k <;> exact ⟨by decide, by decide, by decide⟩
  | optional next k => cases k <;> exact ⟨by decide, by decide, by decide⟩
  | coercible next c => cases c <;> exact ⟨by decide, by decide, by decide⟩

namespace Config

/-- The built-in names are keys of one level. -/
theorem baseContext_isKey {c : Config} {key : String}
    (h : (((c.baseContext (σ := σ)).registry).bindings.get? key).isSome = true) :
    TypeSpec.IsKey key := by
  unfold baseContext at h
  split at h
  · obtain ⟨b, hb⟩ := Option.isSome_iff_exists.1 h
    rcases Builtins.bound_of_install hb with ⟨t, -, hbuiltin⟩ | hbefore
    · exact hbuiltin.isKey
    · cases hbefore
  · cases h

/-- A context without declarations is coherent. -/
theorem baseContext_coherent (c : Config) : (c.baseContext (σ := σ)).Coherent := by
  unfold baseContext
  split
  · exact Cache.coherent_empty _
  · exact Cache.coherent_empty _

/-- A run of declarations succeeds if the first of them does and then the rest. -/
theorem declareAll_cons_eq_ok_iff {d : Declaration} {ds : List Declaration}
    {ctx after : Context σ} :
    declareAll ctx (d :: ds) = .ok after ↔
      ∃ t next, ctx.defineRecord d.name (d.fields.map fun f => (f.name, .spec f.spec))
        = (.ok t, next) ∧ declareAll next ds = .ok after := by
  rw [declareAll]
  rcases hd : ctx.defineRecord d.name (d.fields.map fun f => (f.name, .spec f.spec)) with ⟨o, next⟩
  cases o with
  | error e => simp [hd]
  | ok t => simp [hd]

/-- A run of declarations binds the keys of their names, and no others. -/
theorem declareAll_bound {ds : List Declaration} {ctx after : Context σ}
    (h : declareAll ctx ds = .ok after) (key : String) :
    (after.registry.bindings.get? key).isSome = true ↔
      (ctx.registry.bindings.get? key).isSome = true ∨ ∃ d ∈ ds, key = identifier d.name := by
  induction ds generalizing ctx with
  | nil =>
    cases h
    refine (or_iff_left ?_).symm
    rintro ⟨d, hd, -⟩
    cases hd
  | cons d ds ih =>
    obtain ⟨t, next, hd, h⟩ := declareAll_cons_eq_ok_iff.1 h
    obtain ⟨mid, hmid, rfl⟩ := Context.defineRecord_eq_ok hd
    have hbind : ((mid.registry.bind (identifier d.name) (.type t)).bindings.get? key).isSome
        = true ↔ (ctx.registry.bindings.get? key).isSome = true ∨ key = identifier d.name := by
      rw [Registry.bind, Dict.get?_insert, ← hmid.grows.registry.isSome key]
      by_cases hkey : key = identifier d.name
      · rw [if_pos hkey]
        exact iff_of_true rfl (.inr hkey)
      · rw [if_neg hkey]
        exact (or_iff_left hkey).symm
    have hdeclared : (∃ e ∈ d :: ds, key = identifier e.name) ↔
        key = identifier d.name ∨ ∃ e ∈ ds, key = identifier e.name := by
      simp only [List.mem_cons, or_and_right, exists_or, exists_eq_left]
    rw [ih h, hdeclared, ← or_assoc]
    exact or_congr_left hbind

/-- Declarations keep a context coherent. -/
theorem declareAll_coherent {ds : List Declaration} {ctx after : Context σ}
    (hcoh : ctx.Coherent) (h : declareAll ctx ds = .ok after) : after.Coherent := by
  induction ds generalizing ctx with
  | nil =>
    cases h
    exact hcoh
  | cons d ds ih =>
    obtain ⟨t, next, hd, h⟩ := declareAll_cons_eq_ok_iff.1 h
    have hnext := Context.defineRecord_coherent hcoh d.name
      (d.fields.map fun f => (f.name, .spec f.spec))
    rw [hd] at hnext
    exact ih hnext h

/-- The keys of a described context: those of the built-in types, which may stand in a spec, and
    those of the declared records. -/
theorem mem_keys_iff {c : Config} {ctx : Context σ} (h : c.context = .ok ctx) (key : String) :
    key ∈ ctx.registry.keys ↔
      key ∈ (c.baseContext (σ := σ)).registry.keys ∨
        ∃ d ∈ c.declarations, key = identifier d.name := by
  rw [Registry.keys, Dict.mem_keys_iff, declareAll_bound h, Registry.keys, Dict.mem_keys_iff]

/-- Every key of a described context has no `<`; they may all stand in specs exactly if the declared
    names are nameable. -/
theorem keys_isKey_iff {c : Config} {ctx : Context σ} (h : c.context = .ok ctx) :
    (∀ key ∈ ctx.registry.keys, TypeSpec.IsKey key) ↔ ∀ d ∈ c.declarations, Nameable d.name := by
  constructor
  · intro hkeys d hd
    exact (isKey_identifier_iff _).1 (hkeys _ ((mem_keys_iff h _).2 (.inr ⟨d, hd, rfl⟩)))
  · intro hnames key hkey
    rcases (mem_keys_iff h key).1 hkey with hbase | ⟨d, hd, rfl⟩
    · exact baseContext_isKey (Dict.mem_keys_iff.1 hbase)
    · exact (isKey_identifier_iff _).2 (hnames d hd)

/-- No key of a described context holds an opening bracket. -/
theorem keys_open {c : Config} {ctx : Context σ} (h : c.context = .ok ctx) {key : String}
    (hkey : key ∈ ctx.registry.keys) : '<' ∉ key.toList := by
  rcases (mem_keys_iff h key).1 hkey with hbase | ⟨d, -, rfl⟩
  · exact (baseContext_isKey (Dict.mem_keys_iff.1 hbase)).2.1
  · exact open_not_mem_identifier _

end Config

/-! ## Listings -/

/-- A listing of bound keys ends well exactly if all of them may stand in specs. -/
theorem Cli.listLines_exit_iff {keys : List String} {ctx : Context Empty} (hcoh : ctx.Coherent)
    (hbound : ∀ key ∈ keys, (ctx.registry.bindings.get? key).isSome = true)
    (hopen : ∀ key ∈ keys, '<' ∉ key.toList) (printed : String) :
    (listLines ctx printed keys).exit = 0 ↔ ∀ key ∈ keys, TypeSpec.IsKey key := by
  induction keys generalizing ctx printed with
  | nil => exact iff_of_true rfl (by rintro _ ⟨⟩)
  | cons key keys ih =>
    rw [List.forall_mem_cons] at hbound hopen ⊢
    rw [← Context.resolve_bound_ok_iff hcoh hbound.1 hopen.1, listLines]
    have hgrows := Context.resolve_grows ctx key
    have hafter := Context.resolve_coherent hcoh key
    rcases hr : ctx.resolve key with ⟨o, after⟩
    rw [hr] at hgrows hafter
    cases o with
    | error e =>
      refine iff_of_false (by rintro ⟨⟩) ?_
      rintro ⟨⟨t, ht⟩, -⟩
      cases ht
    | ok t =>
      have hbound' : ∀ k ∈ keys, (after.registry.bindings.get? k).isSome = true := by
        intro k hk
        rw [hgrows.registry.isSome]
        exact hbound.2 k hk
      rw [and_iff_right ⟨t, rfl⟩]
      exact ih hafter hbound' hopen.2 _

/-- The keys of a described context resolve exactly if the declared names are nameable. -/
theorem Config.keys_resolve_iff {c : Config} {ctx : Context σ} (h : c.context = .ok ctx) :
    (∀ key ∈ ctx.registry.keys, ∃ t, (ctx.resolve key).1 = .ok t) ↔
      ∀ d ∈ c.declarations, Nameable d.name := by
  have hcoh : ctx.Coherent := declareAll_coherent c.baseContext_coherent h
  rw [← keys_isKey_iff h]
  refine forall₂_congr ?_
  intro key hkey
  exact Context.resolve_bound_ok_iff hcoh (Dict.mem_keys_iff.1 hkey) (keys_open h hkey)

/-- A listing that is not empty ends well exactly if all declared names are nameable. -/
theorem Cli.list_exit_iff {c : Config} {ctx : Context Empty} (h : c.context = .ok ctx)
    (hne : ctx.registry.keys ≠ []) :
    (list c).exit = 0 ↔ ∀ d ∈ c.declarations, Nameable d.name := by
  have hcoh : ctx.Coherent := Config.declareAll_coherent c.baseContext_coherent h
  rw [← Config.keys_isKey_iff h, list, h]
  simp only [if_neg hne]
  exact listLines_exit_iff hcoh (fun _ hkey => Dict.mem_keys_iff.1 hkey)
    (fun _ hkey => Config.keys_open h hkey) ""

/-! ## Main result -/

/-- **A declared type can be referred to by its key**, exactly if its name is nameable.  This holds
    of declared records and registered classes in every context; and in the context of a
    configuration all keys resolve, and a listing that is not empty ends well, exactly if all
    declared names are nameable. -/
theorem declared_key_resolves_iff :
    (∀ (ctx after : Context σ) (name : String) (fields : List (String × TypeRef σ)) (t : Ty σ),
      ctx.defineRecord name fields = (.ok t, after) → after.Refers name t) ∧
    (∀ (ctx after : Context σ) (name key : String) (kind : Kind) (op : σ),
      ctx.registerClass name kind op = (key, after) →
        key = identifier name ∧
        ∃ t, after.registry.bindings.get? key = some (.type t) ∧ after.Refers name t) ∧
    (∀ (c : Config) (ctx : Context σ), c.context = .ok ctx →
      ((∀ key ∈ ctx.registry.keys, ∃ t, (ctx.resolve key).1 = .ok t) ↔
        ∀ d ∈ c.declarations, Nameable d.name)) ∧
    ∀ (c : Config) (ctx : Context Empty), c.context = .ok ctx → ctx.registry.keys ≠ [] →
      ((Cli.list c).exit = 0 ↔ ∀ d ∈ c.declarations, Nameable d.name) := by
  refine ⟨?_, ?_, ?_, ?_⟩
  · intro ctx after name fields t h
    exact Context.defineRecord_refers h
  · intro ctx after name key kind op h
    obtain ⟨t, hclass⟩ := ctx.registerClass_eq name kind op
    rw [hclass] at h
    obtain ⟨rfl, rfl⟩ := Prod.mk.inj h
    exact ⟨rfl, t, ctx.register_bound _ t, Context.register_refers ctx name t _⟩
  · intro c ctx h
    exact Config.keys_resolve_iff h
  · intro c ctx h hne
    exact Cli.list_exit_iff h hne

/-- A record and a class that are referred to, and a configuration whose listing ends well. -/
theorem declared_key_resolves_iff_at_line :
    let declared := (Context.empty : Context Unit).defineRecord "billing::Line<u64>" []
    let registered := (Context.empty : Context Unit).registerClass "HTTPServer" .string ()
    (∃ t, declared.1 = .ok t ∧
      ∃ ctx, declared.2.resolve (identifier "billing::Line<u64>") = (.ok t, ctx)) ∧
    (∃ t ctx, registered.2.resolve registered.1 = (.ok t, ctx)) ∧
    (Cli.list ⟨⟨false, false, false⟩, .pretty, [⟨"billing::Line", []⟩]⟩).exit = 0 := by
  intro declared registered
  obtain ⟨hrecord, hclass, -, -⟩ := declared_key_resolves_iff (σ := Unit)
  obtain ⟨-, -, -, hlist⟩ := declared_key_resolves_iff (σ := Empty)
  refine ⟨⟨_, rfl, ?_⟩, ?_, ?_⟩
  · exact (hrecord .empty declared.2 "billing::Line<u64>" [] _ rfl).1 (by decide)
  · obtain ⟨hkey, t, -, hrefers⟩ := hclass .empty registered.2 "HTTPServer" _ .string () rfl
    exact ⟨t, hrefers.1 (by decide)⟩
  · let c : Config := ⟨⟨false, false, false⟩, .pretty, [⟨"billing::Line", []⟩]⟩
    obtain ⟨ctx, hctx⟩ : ∃ ctx : Context Empty, c.context = .ok ctx := ⟨_, rfl⟩
    have hkey : identifier "billing::Line" ∈ ctx.registry.keys :=
      (Config.mem_keys_iff hctx _).2 (.inr ⟨_, List.mem_singleton.2 rfl, rfl⟩)
    exact (hlist c ctx hctx (List.ne_nil_of_mem hkey)).2 (by decide)

/-- A record that is declared under a name with a `>` is not referred to by its key, and makes the
    listing fail. -/
theorem declared_key_refused_at_close :
    let declared := (Context.empty : Context Empty).defineRecord "A>B" []
    (∃ t, declared.1 = .ok t ∧ ∀ ctx, declared.2.resolve (identifier "A>B") ≠ (.ok t, ctx)) ∧
    (Cli.list ⟨.default, .pretty, [⟨"A>B", []⟩]⟩).exit ≠ 0 := by
  intro declared
  have hname : ¬Nameable "A>B" := by decide
  refine ⟨⟨_, rfl, ?_⟩, ?_⟩
  · intro ctx hresolve
    have hdeclared : (Context.empty : Context Empty).defineRecord "A>B" []
        = (.ok _, declared.2) := rfl
    obtain ⟨fault, hrefused⟩ := (Context.defineRecord_refers hdeclared).2 hname
    rw [hresolve] at hrefused
    have houtcome : Except.ok _ = Except.error _ := congrArg Prod.fst hrefused
    cases houtcome
  · let c : Config := ⟨.default, .pretty, [⟨"A>B", []⟩]⟩
    obtain ⟨ctx, hctx⟩ : ∃ ctx : Context Empty, c.context = .ok ctx := ⟨_, rfl⟩
    have hkey : identifier "A>B" ∈ ctx.registry.keys :=
      (Config.mem_keys_iff hctx _).2 (.inr ⟨_, List.mem_singleton.2 rfl, rfl⟩)
    intro hexit
    have hnames := (Cli.list_exit_iff hctx (List.ne_nil_of_mem hkey)).1 hexit
    exact hname (hnames ⟨"A>B", []⟩ (List.mem_singleton.2 rfl))

end ValueTypes
