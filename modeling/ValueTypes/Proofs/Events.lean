/-
  What happens at the registry while operations run.

  The registry sees two kinds of events: a look-up of a key with its outcome, and a registration.
  `Action.events` tells which ones an operation makes, in their order.  A resolution looks up the
  keys of the levels that are not cached, from the innermost outwards, until one fails; a level that
  is cached does not reach the registry.

  Events are all that an operation does to the registry: it is played on from one event to the next,
  each look-up having the outcome that the registry gives then (`run_plays`).  A run of operations
  plays the events of all of them, fetches through the cache included, whatever these build by
  (`Traces.plays`).  So what is to be said of the registry over a run is said of its events, one by
  one.
-/
import ValueTypes.Proofs.Installation
import ValueTypes.Proofs.Run

namespace ValueTypes

variable {σ : Type}

/-! ## Events -/

/-- What is registered: a type, or a factory under the ticket of the registration. -/
inductive Registration (σ : Type) where
  | type (t : Ty σ)
  | lazy (factory : Factory σ) (ticket : Nat)

/-- What the key is bound to by a registration. -/
def Registration.binding : Registration σ → Binding σ
  | type t => .type t
  | lazy factory ticket => .lazy factory ticket none

/-- What happens at the registry. -/
inductive Event (σ : Type) where
  | lookup (key : String) (outcome : Except TypeError (Ty σ))
  | register (key : String) (what : Registration σ)

namespace Event

/-- What an event registers under a key. -/
def registers? (key : String) : Event σ → Option (Registration σ)
  | lookup _ _ => none
  | register k what => if k = key then some what else none

/-- The last registration of a key. -/
def lastRegistration (key : String) (events : List (Event σ)) : Option (Registration σ) :=
  events.reverse.findSome? (registers? key)

/-- The events before the next registration of a key. -/
def untilRegistered (key : String) (events : List (Event σ)) : List (Event σ) :=
  events.takeWhile fun e => (e.registers? key).isNone

/-- The last registration of a key is the latest event if that is one. -/
theorem lastRegistration_concat (key : String) (es : List (Event σ)) (e : Event σ) :
    lastRegistration key (es ++ [e]) = (e.registers? key).or (lastRegistration key es) := by
  rw [lastRegistration, List.reverse_append]
  show List.findSome? (registers? key) (e :: es.reverse) = _
  rw [List.findSome?_cons]
  cases e.registers? key with
  | none => rfl
  | some what => rfl

/-- Either the key is not registered again, and these are all events, or its next registration comes
    right after them. -/
theorem untilRegistered_cases (key : String) (es : List (Event σ)) :
    untilRegistered key es = es ∨
    ∃ what rest, es = untilRegistered key es ++ .register key what :: rest := by
  induction es with
  | nil => exact .inl rfl
  | cons e es ih =>
    cases hregisters : e.registers? key with
    | none =>
      have hcons : untilRegistered key (e :: es) = e :: untilRegistered key es := by
        rw [untilRegistered, List.takeWhile_cons_of_pos (by rw [hregisters]; rfl), untilRegistered]
      rw [hcons]
      rcases ih with heq | ⟨what, rest, heq⟩
      · exact .inl (congrArg (e :: ·) heq)
      · exact .inr ⟨what, rest, congrArg (e :: ·) heq⟩
    | some what =>
      have hnil : untilRegistered key (e :: es) = [] := by
        rw [untilRegistered, List.takeWhile_cons_of_neg (by rw [hregisters]; exact Bool.false_ne_true)]
      rw [hnil]
      cases e with
      | lookup k o => cases hregisters
      | register k what' =>
        rw [registers?] at hregisters
        split at hregisters
        · rename_i hkey
          subst hkey
          exact .inr ⟨what', es, rfl⟩
        · cases hregisters

end Event

/-! ## Playing events -/

namespace Registry

/-- A registry and the next serial number. -/
structure State (σ : Type) where
  registry : Registry σ
  next : Nat

namespace State

/-- One event.  A factory is registered under the next number. -/
inductive Turn (s : State σ) : Event σ → State σ → Prop where
  | lookup {key : String} {o : Except TypeError (Ty σ)} {r : Registry σ} {next : Nat}
    (h : s.registry.resolve s.next key = (o, r, next)) : Turn s (.lookup key o) ⟨r, next⟩
  | register (key : String) (t : Ty σ) :
    Turn s (.register key (.type t)) ⟨s.registry.register key t, s.next⟩
  | registerLazy (key : String) (factory : Factory σ) :
    Turn s (.register key (.lazy factory s.next))
      ⟨s.registry.registerLazy key factory s.next, s.next + 1⟩

/-- Events one after another, between which numbers may be drawn. -/
inductive Plays : State σ → List (Event σ) → State σ → Prop where
  | nil (s : State σ) : Plays s [] s
  | draw {s s' : State σ} {es : List (Event σ)} {next : Nat} (hnext : s.next ≤ next)
    (h : Plays ⟨s.registry, next⟩ es s') : Plays s es s'
  | event {s mid s' : State σ} {e : Event σ} {es : List (Event σ)} (he : s.Turn e mid)
    (h : Plays mid es s') : Plays s (e :: es) s'

theorem Plays.one {s s' : State σ} {e : Event σ} (h : s.Turn e s') : s.Plays [e] s' :=
  .event h (.nil s')

/-- Two runs one after the other are a run. -/
theorem Plays.trans {a b c : State σ} {es fs : List (Event σ)} (hab : a.Plays es b)
    (hbc : b.Plays fs c) : a.Plays (es ++ fs) c := by
  induction hab with
  | nil => exact hbc
  | draw hnext _ ih => exact .draw hnext (ih hbc)
  | event he _ ih => exact .event he (ih hbc)

/-- Numbers may be drawn after the last event as well. -/
theorem Plays.then_draw {s s' : State σ} {es : List (Event σ)} (h : s.Plays es s') {next : Nat}
    (hnext : s'.next ≤ next) : s.Plays es ⟨s'.registry, next⟩ := by
  have hdrawn : s'.Plays [] ⟨s'.registry, next⟩ := .draw hnext (.nil _)
  have htrans := h.trans hdrawn
  rwa [List.append_nil] at htrans

/-- The states around one of the events. -/
theorem Plays.split {s s' : State σ} {pre post : List (Event σ)} {e : Event σ}
    (h : s.Plays (pre ++ e :: post) s') :
    ∃ a b, s.Plays pre a ∧ a.Turn e b ∧ b.Plays post s' := by
  generalize hes : pre ++ e :: post = es at h
  induction h generalizing pre with
  | nil => exact absurd hes (List.append_ne_nil_of_right_ne_nil _ (List.cons_ne_nil _ _))
  | draw hnext _ ih =>
    obtain ⟨a, b, hpre, he, hpost⟩ := ih hes
    exact ⟨a, b, .draw hnext hpre, he, hpost⟩
  | @event s mid s' e' es' he' h ih =>
    cases pre with
    | nil =>
      cases hes
      exact ⟨s, mid, .nil s, he', h⟩
    | cons x pre =>
      cases hes
      obtain ⟨a, b, hpre, he, hpost⟩ := ih rfl
      exact ⟨a, b, .event he' hpre, he, hpost⟩

/-- Types that are registered one after another are events of the registry. -/
theorem plays_registerAll (es : Entries (Ty σ)) (s : State σ) :
    s.Plays (es.map fun e => .register e.1 (.type e.2)) ⟨s.registry.registerAll es, s.next⟩ := by
  induction es generalizing s with
  | nil => exact .nil s
  | cons e es ih => exact .event (.register e.1 e.2) (ih ⟨s.registry.register e.1 e.2, s.next⟩)

end State

end Registry

namespace Context

/-- The registry of a context, with the supply of numbers. -/
def state (ctx : Context σ) : Registry.State σ := ⟨ctx.registry, ctx.next⟩

/-! ## The events of an operation -/

def lookupEvent (ctx : Context σ) (key : String) : Event σ := .lookup key (ctx.lookup key).1

/-- The events of a fetch, of which building makes `events`. -/
def fetchEvents (ctx : Context σ) (key : String) (events : List (Event σ)) : List (Event σ) :=
  match ctx.cache.get? key with
  | some _ => []
  | none => events

def levelEvents (ctx : Context σ) (leaf : String) : List TypeSpec.Level → List (Event σ)
  | [] => ctx.fetchEvents leaf [ctx.lookupEvent leaf]
  | level :: levels =>
    ctx.levelEvents leaf levels ++
      match ctx.resolveLevels leaf levels with
      | (.error _, _) => []
      | (.ok _, ctx) => ctx.fetchEvents level.text [ctx.lookupEvent level.container]

def resolveEvents (ctx : Context σ) (spec : String) : List (Event σ) :=
  match ctx.cache.get? spec with
  | some _ => []
  | none =>
    match TypeSpec.split spec with
    | .error _ => []
    | .ok parts => ctx.levelEvents parts.leaf parts.levels

def refEvents (ctx : Context σ) : TypeRef σ → List (Event σ)
  | .spec text => ctx.resolveEvents text
  | .type _ => []

def fieldEvents (ctx : Context σ) : List (String × TypeRef σ) → List (Event σ)
  | [] => []
  | (_, ref) :: fields =>
    ctx.refEvents ref ++
      match ctx.resolveRef ref with
      | (.error _, _) => []
      | (.ok _, ctx) => ctx.fieldEvents fields

/-- The registration of a class or of a codec. -/
def stepEvent (ctx : Context σ) (className : String) (kind : Kind) (op : String → Op σ) :
    Event σ :=
  let key := identifier className
  .register key (.type ((Ty.new ctx.next key kind).withStep (ctx.next + 1) ⟨ctx.next, op key⟩))

/-- The events that an action makes when it is run in a context. -/
def Action.events (ctx : Context σ) : Action σ → List (Event σ)
  | installBuiltins ns =>
    (Builtins.listing ns ctx.next).map fun e => .register e.1 (.type e.2)
  | register key t => [.register key (.type t)]
  | registerLazy key factory => [.register key (.lazy factory ctx.next)]
  | registerClass className kind op => [ctx.stepEvent className kind fun _ => .custom op]
  | registerCodec typeName op => [ctx.stepEvent typeName .any fun key => .codec key op]
  | buildRecord _ fields => ctx.fieldEvents fields
  | defineRecord name fields =>
    ctx.fieldEvents fields ++
      match ctx.defineRecord name fields with
      | (.error _, _) => []
      | (.ok t, _) => [.register (identifier name) (.type t)]
  | applyBuilder ref _ _ => ctx.refEvents ref
  | resolve ref => ctx.refEvents ref
  | lookup key => [ctx.lookupEvent key]
  | defineBuilder _ _ | removeBuilder _ | clearCache | invalidate _ | draw _ => []

/-! ## Operations play their events -/

/-- A look-up in the registry is one event. -/
theorem lookup_plays (ctx : Context σ) (key : String) :
    ctx.state.Plays [ctx.lookupEvent key] (ctx.lookup key).2.state := .one (.lookup rfl)

/-- A container is looked up once, and that is all that the registry sees. -/
theorem wrap_plays (ctx : Context σ) (container : String) (m : Ty σ) :
    ctx.state.Plays [ctx.lookupEvent container] (ctx.wrap container m).2.state := by
  have hplays := ctx.lookup_plays container
  unfold wrap
  rcases hl : ctx.lookup container with ⟨o, mid⟩
  rw [hl] at hplays
  cases o with
  | error e => exact hplays
  | ok u =>
    cases ho : u.withMember mid.next m with
    | error e =>
      simp only [ho]
      exact hplays
    | ok t =>
      simp only [ho]
      exact hplays.then_draw (Nat.le_succ _)

/-- A fetch plays what building plays, and nothing if the key is cached. -/
theorem fetchOrBuild_plays {ctx : Context σ} (key : String) {build : Context σ → Result σ (Ty σ)}
    {es : List (Event σ)} (h : ctx.state.Plays es (build ctx).2.state) :
    ctx.state.Plays (ctx.fetchEvents key es) (ctx.fetchOrBuild key build).2.state := by
  unfold fetchOrBuild Cache.fetchOrBuild fetchEvents
  cases ctx.cache.get? key with
  | some t => exact .nil _
  | none =>
    rcases hb : build ctx with ⟨o, after⟩
    rw [hb] at h
    cases o with
    | error e => exact h
    | ok t => exact h

/-- The levels of a spec are looked up from the inside out, as far as they are not cached. -/
theorem resolveLevels_plays (leaf : String) (levels : List TypeSpec.Level) (ctx : Context σ) :
    ctx.state.Plays (ctx.levelEvents leaf levels) (ctx.resolveLevels leaf levels).2.state := by
  induction levels with
  | nil => exact fetchOrBuild_plays leaf (ctx.lookup_plays leaf)
  | cons level levels ih =>
    rw [levelEvents, resolveLevels]
    rcases hm : ctx.resolveLevels leaf levels with ⟨o, mid⟩
    rw [hm] at ih
    cases o with
    | error e =>
      rw [List.append_nil]
      exact ih
    | ok m => exact ih.trans (fetchOrBuild_plays level.text (mid.wrap_plays level.container m))

/-- Resolving plays the look-ups of its levels. -/
theorem resolve_plays (ctx : Context σ) (s : String) :
    ctx.state.Plays (ctx.resolveEvents s) (ctx.resolve s).2.state := by
  unfold resolveEvents resolve
  cases ctx.cache.get? s with
  | some t => exact .nil _
  | none =>
    cases TypeSpec.split s with
    | error e => exact .nil _
    | ok parts => exact resolveLevels_plays parts.leaf parts.levels ctx

/-- Resolving a reference plays its events. -/
theorem resolveRef_plays (ctx : Context σ) (ref : TypeRef σ) :
    ctx.state.Plays (ctx.refEvents ref) (ctx.resolveRef ref).2.state := by
  cases ref with
  | spec text => exact ctx.resolve_plays text
  | type t => exact .nil _

/-- The fields of a declaration are resolved one after another. -/
theorem resolveFields_plays (fields : List (String × TypeRef σ)) (ctx : Context σ) :
    ctx.state.Plays (ctx.fieldEvents fields) (ctx.resolveFields fields).2.state := by
  induction fields generalizing ctx with
  | nil => exact .nil _
  | cons field fields ih =>
    obtain ⟨f, ref⟩ := field
    have hplays := ctx.resolveRef_plays ref
    rw [fieldEvents, resolveFields]
    rcases hr : ctx.resolveRef ref with ⟨o, mid⟩
    rw [hr] at hplays
    cases o with
    | error e =>
      rw [List.append_nil]
      exact hplays
    | ok t =>
      have hrest := ih mid
      rcases hf : mid.resolveFields fields with ⟨o', after⟩
      rw [hf] at hrest
      simp only [hf]
      cases o' with
      | error e => exact hplays.trans hrest
      | ok rest => exact hplays.trans hrest

/-- Building a record plays the events of its fields. -/
theorem buildRecord_plays (ctx : Context σ) (name : String) (fields : List (String × TypeRef σ)) :
    ctx.state.Plays (ctx.fieldEvents fields) (ctx.buildRecord name fields).2.state := by
  have hplays := resolveFields_plays fields ctx
  unfold buildRecord
  rcases hf : ctx.resolveFields fields with ⟨o, after⟩
  rw [hf] at hplays
  cases o with
  | error e => exact hplays
  | ok fields => exact hplays

/-- A declaration looks up what its fields mention, and registers its key if that went well. -/
theorem defineRecord_plays (ctx : Context σ) (name : String) (fields : List (String × TypeRef σ)) :
    ctx.state.Plays ((Action.defineRecord name fields).events ctx)
      (ctx.defineRecord name fields).2.state := by
  have hplays := buildRecord_plays ctx name fields
  rw [Action.events, defineRecord]
  rcases hb : ctx.buildRecord name fields with ⟨o, mid⟩
  rw [hb] at hplays
  cases o with
  | error e =>
    rw [List.append_nil]
    exact hplays
  | ok record =>
    -- the type is registered in the end, and has one number more
    have hregister : mid.state.Plays
        [.register (identifier name) (.type (record.toTy mid.next))]
        (mid.register (identifier name) (record.toTy mid.next)).state :=
      .one (.register (identifier name) (record.toTy mid.next))
    exact hplays.trans (hregister.then_draw (Nat.le_succ _))

theorem applyBuilder_plays (ctx : Context σ) (ref : TypeRef σ) (name : String)
    (args : List Value) :
    ctx.state.Plays (ctx.refEvents ref) (ctx.applyBuilder ref name args).2.state := by
  have hplays := ctx.resolveRef_plays ref
  unfold applyBuilder
  rcases hr : ctx.resolveRef ref with ⟨o, mid⟩
  rw [hr] at hplays
  cases o with
  | error e => exact hplays
  | ok t =>
    rcases hb : mid.builders.apply name t args mid.next with e | ⟨t', next⟩
    · simp only [hb]
      exact hplays
    · simp only [hb]
      exact hplays.then_draw (Nat.le_max_left _ _)

theorem registerStep_plays (ctx : Context σ) (className : String) (kind : Kind)
    (op : String → Op σ) :
    ctx.state.Plays [ctx.stepEvent className kind op] (ctx.registerStep className kind op).2.state :=
  (Registry.State.Plays.one (.register _ _)).then_draw (Nat.le_add_right _ _)

/-- An installation registers the built-in types, one after another. -/
theorem installBuiltins_plays (ctx : Context σ) (ns : Builtins.Namespaces) :
    ctx.state.Plays ((Action.installBuiltins ns).events ctx) (ctx.installBuiltins ns).state := by
  obtain ⟨hregistry, hnext⟩ := Builtins.install_eq ns ctx.registry ctx.next
  have hplays := Registry.State.plays_registerAll (Builtins.listing ns ctx.next) ctx.state
  rw [show ctx.state.registry = ctx.registry from rfl, ← hregistry] at hplays
  exact hplays.then_draw hnext

/-- **An operation plays its events** on the registry. -/
theorem run_plays (ctx : Context σ) (a : Action σ) :
    ctx.state.Plays (a.events ctx) (a.run ctx).state := by
  cases a with
  | installBuiltins ns => exact ctx.installBuiltins_plays ns
  | register key t => exact .one (.register key t)
  | registerLazy key factory => exact .one (.registerLazy key factory)
  | registerClass className kind op => exact ctx.registerStep_plays className kind _
  | registerCodec typeName op => exact ctx.registerStep_plays typeName .any _
  | buildRecord name fields => exact ctx.buildRecord_plays name fields
  | defineRecord name fields => exact ctx.defineRecord_plays name fields
  | defineBuilder name b => exact .nil _
  | removeBuilder name => exact .nil _
  | applyBuilder ref name args => exact ctx.applyBuilder_plays ref name args
  | resolve ref => exact ctx.resolveRef_plays ref
  | lookup key => exact ctx.lookup_plays key
  | clearCache => exact .nil _
  | invalidate name => exact .nil _
  | draw count => exact .draw (Nat.le_add_right _ _) (.nil _)

/-! ## Runs -/

/-- A run of operations and fetches, and its events, the first first. -/
inductive Traces : Context σ → List (Event σ) → Context σ → Prop where
  | nil (ctx : Context σ) : Traces ctx [] ctx
  | action {ctx mid : Context σ} {es : List (Event σ)} (h : Traces ctx es mid) (a : Action σ) :
    Traces ctx (es ++ a.events mid) (a.run mid)
  /-- A fetch of a key that is cached builds nothing. -/
  | hit {ctx mid : Context σ} {es : List (Event σ)} {key : String} {t : Ty σ}
    (h : Traces ctx es mid) (hget : mid.cache.get? key = some t)
    (build : Context σ → Result σ (Ty σ)) : Traces ctx es (mid.fetchOrBuild key build).2
  /-- A fetch of any other key builds by a function that again makes a run of the context. -/
  | miss {ctx mid : Context σ} {es inner : List (Event σ)} {key : String}
    (h : Traces ctx es mid) (hget : mid.cache.get? key = none)
    (build : Context σ → Result σ (Ty σ)) (hbuild : Traces mid inner (build mid).2) :
    Traces ctx (es ++ inner) (mid.fetchOrBuild key build).2

/-- **A run plays its events** on the registry. -/
theorem Traces.plays {ctx after : Context σ} {es : List (Event σ)} (h : ctx.Traces es after) :
    ctx.state.Plays es after.state := by
  induction h with
  | nil ctx => exact .nil _
  | action _ a ih => exact ih.trans (run_plays _ a)
  | hit _ hget build ih =>
    rw [fetchOrBuild_of_get? hget]
    exact ih
  | @miss ctx mid es inner key _ hget build _ ih ihbuild =>
    have hfetch := fetchOrBuild_plays key ihbuild
    rw [fetchEvents, hget] at hfetch
    exact ih.trans hfetch

end Context

end ValueTypes
