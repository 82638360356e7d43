/-
  Fetches within fetches.

  What a fetch builds by may use the cache itself: it may look keys up and fetch keys, the key that
  is being built among them, before it gives a type or an error.  A `Script` is such a callback.
  What it does next may depend on what it was given, so scripts are trees; the scripts of nested
  fetches stand within them.

  A run is observed by notes, each kept with the cache right after it (`Recorded`).  The notes of a
  run are a history of the cache (`History`), in which one turn says all that the cache can do: it
  stores a type under a key that has none, or it stays as it is.  That every run has a history is
  an induction on the script, and the only place where nesting matters (`Script.run_leads`).  The
  rest is read off the history, in which nothing is nested any more:

  * no entry is replaced or removed between any two points of the run (`History.throughout`);
  * a callback starts only while its key has no entry, and a type that is given is the entry by then
    (`History.holds`);
  * what is cached in the end was cached before, or a fetch gave it (`History.get?_iff`).
-/
import ValueTypes.Proofs.Growth

namespace ValueTypes.Cache

variable {σ : Type}

/-! ## Callbacks -/

/-- What a callback does with the cache, and what it gives in the end. -/
inductive Script (σ : Type) where
  | give (o : Except TypeError (Ty σ))
  | get (key : String) (next : Option (Ty σ) → Script σ)
  | fetch (key : String) (build : Script σ) (next : Except TypeError (Ty σ) → Script σ)

/-- What is observed of a cache in use. -/
inductive Note (σ : Type) where
  /-- A look-up, and what it saw. -/
  | got (key : String) (seen : Option (Ty σ))
  /-- The callback of a fetch starts. -/
  | building (key : String)
  /-- A fetch ends, with what it gives. -/
  | fetched (key : String) (o : Except TypeError (Ty σ))

/-- Notes in the order in which they were made, each with the cache right after. -/
abbrev Notes (σ : Type) := List (Note σ × Cache σ)

/-- A cache, and the notes that were made of it. -/
structure Recorded (σ : Type) where
  cache : Cache σ
  notes : Notes σ

namespace Recorded

def withCache (s : Recorded σ) (c : Cache σ) : Recorded σ := { s with cache := c }

def note (s : Recorded σ) (n : Note σ) : Recorded σ := { s with notes := s.notes ++ [(n, s.cache)] }

/-- A fetch, with a note when its callback starts and one when it ends. -/
def fetch (s : Recorded σ) (key : String)
    (build : Recorded σ → Except TypeError (Ty σ) × Recorded σ) :
    Except TypeError (Ty σ) × Recorded σ :=
  let (o, s) := fetchOrBuild cache withCache key (fun s => build (s.note (.building key))) s
  (o, s.note (.fetched key o))

end Recorded

/-- What a callback gives, and the cache after it. -/
def Script.run : Script σ → Recorded σ → Except TypeError (Ty σ) × Recorded σ
  | give o, s => (o, s)
  | get key next, s =>
    let seen := s.cache.get? key
    (next seen).run (s.note (.got key seen))
  | fetch key build next, s =>
    let (o, s) := s.fetch key build.run
    (next o).run s

/-! ## Histories -/

/-- What a cache goes through up to one note. -/
inductive Turn (c : Cache σ) : Note σ → Cache σ → Prop where
  | got (key : String) : Turn c (.got key (c.get? key)) c
  | building {key : String} (h : c.get? key = none) : Turn c (.building key) c
  | hit {key : String} {t : Ty σ} (h : c.get? key = some t) : Turn c (.fetched key (.ok t)) c
  | stored {key : String} (t : Ty σ) (h : c.get? key = none) :
    Turn c (.fetched key (.ok t)) (c.insert key t)
  | failed (key : String) (e : TypeError) : Turn c (.fetched key (.error e)) c

/-- What a cache goes through, note by note. -/
inductive History : Cache σ → Notes σ → Cache σ → Prop where
  | nil (c : Cache σ) : History c [] c
  | cons {a b c : Cache σ} {n : Note σ} {ns : Notes σ} (h : a.Turn n b) (hrest : History b ns c) :
    History a ((n, b) :: ns) c

theorem Turn.history {a b : Cache σ} {n : Note σ} (h : a.Turn n b) : History a [(n, b)] b :=
  .cons h (.nil b)

theorem History.trans {a b c : Cache σ} {ns ms : Notes σ} (hab : History a ns b)
    (hbc : History b ms c) : History a (ns ++ ms) c := by
  induction hab with
  | nil a => exact hbc
  | cons h _ ih => exact .cons h (ih hbc)

/-- What a note says of the cache right after it. -/
def Note.Holds (c : Cache σ) : Note σ → Prop
  | got key seen => c.get? key = seen
  | building key => c.get? key = none
  | fetched key (.ok t) => c.get? key = some t
  | fetched _ (.error _) => True

theorem Turn.holds {a b : Cache σ} {n : Note σ} (h : a.Turn n b) : n.Holds b := by
  cases h with
  | got key => rfl
  | building h => exact h
  | hit h => exact h
  | stored t h => exact Dict.get?_insert_self _ _ _
  | failed key e => trivial

theorem Turn.keeps {a b : Cache σ} {n : Note σ} (h : a.Turn n b) : a.Keeps b := by
  intro key t hget
  cases h with
  | stored u hnew => exact get?_insert_of_get? hnew u hget
  | got | building | hit | failed => exact hget

/-- What comes into the cache is what a fetch gives. -/
theorem Turn.new {a b : Cache σ} {n : Note σ} (h : a.Turn n b) {key : String} {t : Ty σ}
    (hnew : a.get? key = none) (hget : b.get? key = some t) : n = .fetched key (.ok t) := by
  cases h with
  | stored u _ =>
    rw [Dict.get?_insert] at hget
    split at hget
    · rename_i hkey
      cases hget
      rw [hkey]
    · rw [hnew] at hget
      cases hget
  | got | building | hit | failed =>
    rw [hnew] at hget
    cases hget

namespace History

variable {a c : Cache σ} {ns : Notes σ}

/-- Each note holds when it is made. -/
theorem holds (h : History a ns c) : ∀ p ∈ ns, p.1.Holds p.2 := by
  induction h with
  | nil a => nofun
  | cons h _ ih => exact List.forall_mem_cons.2 ⟨h.holds, ih⟩

/-- Nothing is replaced or removed between any two points of a history. -/
theorem throughout (h : History a ns c) : (a :: (ns.map Prod.snd ++ [c])).Pairwise Keeps := by
  induction h with
  | nil a => exact List.pairwise_pair.2 fun _ _ hget => hget
  | cons h _ ih =>
    refine List.pairwise_cons.2 ⟨?_, ih⟩
    intro d hd
    rcases List.mem_cons.1 hd with rfl | hd
    · exact h.keeps
    · exact h.keeps.trans ((List.pairwise_cons.1 ih).1 d hd)

/-- A history keeps the entries that were there. -/
theorem keeps (h : History a ns c) : a.Keeps c :=
  (List.pairwise_cons.1 h.throughout).1 c (List.mem_append_right _ List.mem_cons_self)

/-- A type that a fetch gives is the entry in the end. -/
theorem get?_of_fetched (h : History a ns c) {key : String} {t : Ty σ}
    (hmem : .fetched key (.ok t) ∈ ns.map Prod.fst) : c.get? key = some t := by
  obtain ⟨⟨n, d⟩, hp, rfl⟩ := List.mem_map.1 hmem
  have hkeeps : d.Keeps c := by
    obtain ⟨-, htail⟩ := List.pairwise_cons.1 h.throughout
    exact (List.pairwise_append.1 htail).2.2 d (List.mem_map.2 ⟨_, hp, rfl⟩) c List.mem_cons_self
  exact hkeeps key t (h.holds _ hp)

/-- What is cached in the end was cached before, or a fetch gave it. -/
theorem get?_iff (h : History a ns c) {key : String} {t : Ty σ} :
    c.get? key = some t ↔ a.get? key = some t ∨
      a.get? key = none ∧ .fetched key (.ok t) ∈ ns.map Prod.fst := by
  constructor
  · intro hget
    induction h with
    | nil a => exact .inl hget
    | @cons a b c n ns hturn hrest ih =>
      cases ha : a.get? key with
      | some u =>
        refine .inl ?_
        rw [← hget]
        exact ((hturn.keeps.trans hrest.keeps) key u ha).symm
      | none =>
        refine .inr ⟨rfl, ?_⟩
        rcases ih hget with hb | ⟨-, hmem⟩
        · rw [hturn.new ha hb]
          exact List.mem_cons_self
        · exact List.mem_cons_of_mem _ hmem
  · rintro (ha | ⟨-, hmem⟩)
    · exact h.keeps key t ha
    · exact h.get?_of_fetched hmem

/-- What a fetch gives is what every look-up sees from then on. -/
theorem seen (h : History a ns c) : ns.Pairwise fun p q => ∀ key t seen,
    p.1 = .fetched key (.ok t) → q.1 = .got key seen → seen = some t := by
  obtain ⟨-, htail⟩ := List.pairwise_cons.1 h.throughout
  have hkeeps : ns.Pairwise fun p q => p.2.Keeps q.2 :=
    List.pairwise_map.1 (List.pairwise_append.1 htail).1
  refine List.Pairwise.imp_of_mem ?_ hkeeps
  rintro ⟨n, d⟩ ⟨m, d'⟩ hp hq hkept key t seen rfl rfl
  rw [← show d'.get? key = seen from h.holds _ hq]
  exact hkept key t (h.holds _ hp)

end History

/-! ## Runs -/

namespace Recorded

variable {s mid : Recorded σ} {key : String}
  {build : Recorded σ → Except TypeError (Ty σ) × Recorded σ}

/-- A key that has an entry is not built. -/
theorem fetch_of_get? {t : Ty σ} (hget : s.cache.get? key = some t) :
    s.fetch key build = (.ok t, s.note (.fetched key (.ok t))) := by
  rw [fetch, fetchOrBuild, hget]

/-- An error of the callback is given on, and nothing is stored for it. -/
theorem fetch_of_error {e : TypeError} (hget : s.cache.get? key = none)
    (hbuild : build (s.note (.building key)) = (.error e, mid)) :
    s.fetch key build = (.error e, mid.note (.fetched key (.error e))) := by
  simp only [fetch, fetchOrBuild, hget, hbuild]

/-- A type of the callback is stored, unless the key has an entry by then. -/
theorem fetch_of_ok {t : Ty σ} (hget : s.cache.get? key = none)
    (hbuild : build (s.note (.building key)) = (.ok t, mid)) :
    s.fetch key build = (.ok (mid.cache.store key t).1,
      (mid.withCache (mid.cache.store key t).2).note
        (.fetched key (.ok (mid.cache.store key t).1))) := by
  simp only [fetch, fetchOrBuild, hget, hbuild]

end Recorded

/-- The entry that came first stays and is given. -/
theorem store_turn (c : Cache σ) (key : String) (t : Ty σ) :
    c.Turn (.fetched key (.ok (c.store key t).1)) (c.store key t).2 := by
  unfold store
  cases hget : c.get? key with
  | some old => exact .hit hget
  | none => exact .stored t hget

/-- Between two states, notes were made which are a history of the cache. -/
def Recorded.Leads (s s' : Recorded σ) : Prop :=
  ∃ ns, s'.notes = s.notes ++ ns ∧ History s.cache ns s'.cache

theorem Recorded.Leads.refl (s : Recorded σ) : s.Leads s := ⟨[], (List.append_nil _).symm, .nil _⟩

theorem Recorded.Leads.trans {a b c : Recorded σ} (hab : a.Leads b) (hbc : b.Leads c) :
    a.Leads c := by
  obtain ⟨ns, hns, hab⟩ := hab
  obtain ⟨ms, hms, hbc⟩ := hbc
  refine ⟨ns ++ ms, ?_, hab.trans hbc⟩
  rw [hms, hns, List.append_assoc]

/-- A turn with its note. -/
theorem Turn.leads {s : Recorded σ} {c : Cache σ} {n : Note σ} (h : s.cache.Turn n c) :
    s.Leads ((s.withCache c).note n) := ⟨[(n, c)], rfl, h.history⟩

/-- A fetch leads somewhere, and ends there with the turn in which it gives its outcome. -/
theorem fetch_leads (s : Recorded σ) (key : String)
    {build : Recorded σ → Except TypeError (Ty σ) × Recorded σ}
    (hbuild : ∀ s : Recorded σ, s.Leads (build s).2) :
    ∃ mid c, s.Leads mid ∧ mid.cache.Turn (.fetched key (s.fetch key build).1) c ∧
      (s.fetch key build).2 = (mid.withCache c).note (.fetched key (s.fetch key build).1) := by
  cases hget : s.cache.get? key with
  | some t =>
    rw [Recorded.fetch_of_get? hget]
    exact ⟨s, s.cache, .refl s, .hit hget, rfl⟩
  | none =>
    have hmid : s.Leads (build (s.note (.building key))).2 :=
      (Turn.building hget).leads.trans (hbuild _)
    rcases hb : build (s.note (.building key)) with ⟨o, mid⟩
    rw [hb] at hmid
    cases o with
    | error e =>
      rw [Recorded.fetch_of_error hget hb]
      exact ⟨mid, mid.cache, hmid, .failed key e, rfl⟩
    | ok t =>
      rw [Recorded.fetch_of_ok hget hb]
      exact ⟨mid, _, hmid, mid.cache.store_turn key t, rfl⟩

/-- **Every run has a history**, however deep its fetches are nested and whatever their keys are. -/
theorem Script.run_leads (script : Script σ) : ∀ s : Recorded σ, s.Leads (script.run s).2 := by
  induction script with
  | give o =>
    intro s
    exact .refl s
  | get key next ih =>
    intro s
    exact (Turn.got key).leads.trans (ih _ _)
  | fetch key build next ihbuild ihnext =>
    intro s
    obtain ⟨mid, c, hmid, hturn, hafter⟩ := fetch_leads s key ihbuild
    refine (hmid.trans hturn.leads).trans ?_
    rw [← hafter]
    exact ihnext _ _

/-! ## Main result -/

/-- What notes tell of a cache that was in use. -/
structure Consistent (before : Cache σ) (ns : Notes σ) (after : Cache σ) : Prop where
  /-- Nothing is replaced or removed between any two points. -/
  throughout : (before :: (ns.map Prod.snd ++ [after])).Pairwise Keeps
  /-- Each note holds when it is made: a callback starts only while its key has no entry. -/
  holds : ∀ p ∈ ns, p.1.Holds p.2
  /-- All fetches of one key give one type. -/
  same : ∀ key t u, .fetched key (.ok t) ∈ ns.map Prod.fst → .fetched key (.ok u) ∈ ns.map Prod.fst →
    t = u
  /-- It is what every look-up sees from then on. -/
  seen : ns.Pairwise fun p q => ∀ key t seen,
    p.1 = .fetched key (.ok t) → q.1 = .got key seen → seen = some t
  /-- The cache has what it had before, and what the fetches gave. -/
  get?_iff : ∀ key t, after.get? key = some t ↔
    before.get? key = some t ∨ before.get? key = none ∧ .fetched key (.ok t) ∈ ns.map Prod.fst

/-- Whatever the callbacks do, a history is consistent. -/
theorem History.consistent {a c : Cache σ} {ns : Notes σ} (h : History a ns c) :
    Consistent a ns c := by
  refine ⟨h.throughout, h.holds, ?_, h.seen, fun key t => h.get?_iff⟩
  intro key t u ht hu
  exact Option.some.inj ((h.get?_of_fetched ht).symm.trans (h.get?_of_fetched hu))

/-- **Memoization is re-entrant**: whatever cache a fetch starts from, and whatever its callback does
    with the cache, each key has one type throughout.  A key that has an entry is not built; an error
    of the callback is given on, and then the cache has what it had and what the nested fetches gave.
    A nested fetch is a fetch from the state in which it starts, so all of this holds of it too. -/
theorem fetch_reentrant (s : Recorded σ) (key : String) (build : Script σ) :
    let o := (s.fetch key build.run).1
    let after := (s.fetch key build.run).2
    (∃ ns, after.notes = s.notes ++ (ns ++ [(.fetched key o, after.cache)]) ∧
      Consistent s.cache (ns ++ [(.fetched key o, after.cache)]) after.cache) ∧
    (∀ t, s.cache.get? key = some t →
      o = .ok t ∧ after = s.note (.fetched key (.ok t))) ∧
    ∀ e mid, s.cache.get? key = none → build.run (s.note (.building key)) = (.error e, mid) →
      o = .error e ∧ after = mid.note (.fetched key (.error e)) ∧
      ∃ ns, mid.notes = s.notes ++ (.building key, s.cache) :: ns ∧
        Consistent s.cache ns mid.cache := by
  intro o after
  refine ⟨?_, ?_, ?_⟩
  · obtain ⟨mid, c, ⟨ns, hnotes, hhistory⟩, hturn, hafter⟩ := fetch_leads s key build.run_leads
    rw [show after = _ from hafter]
    refine ⟨ns, ?_, (hhistory.trans hturn.history).consistent⟩
    rw [← List.append_assoc, ← hnotes]
    rfl
  · intro t hget
    have h : s.fetch key build.run = _ := Recorded.fetch_of_get? hget
    exact ⟨congrArg Prod.fst h, congrArg Prod.snd h⟩
  · intro e mid hget hbuild
    have h : s.fetch key build.run = _ := Recorded.fetch_of_error hget hbuild
    refine ⟨congrArg Prod.fst h, congrArg Prod.snd h, ?_⟩
    obtain ⟨ns, hnotes, hhistory⟩ := build.run_leads (s.note (.building key))
    rw [hbuild] at hnotes hhistory
    refine ⟨ns, ?_, hhistory.consistent⟩
    rw [hnotes, Recorded.note, List.append_assoc]
    rfl

/-- The callback fetches the very key that is being built, and then gives an error: the type of the
    nested fetch stays, and it is what is seen from then on. -/
theorem fetch_reentrant_at_own_key :
    let t : Ty Empty := .nominal 0 .string
    let e : TypeError := .unknownType "b"
    let build : Script Empty :=
      .fetch "a" (.give (.ok t)) fun _ => .get "a" fun _ => .give (.error e)
    let s : Recorded Empty := ⟨.empty, []⟩
    let after := (s.fetch "a" build.run).2
    after.notes.map Prod.fst = [.building "a", .building "a", .fetched "a" (.ok t),
        .got "a" (some t), .fetched "a" (.error e)] ∧
      (s.fetch "a" build.run).1 = .error e ∧ after.cache.get? "a" = some t ∧
      after.fetch "a" build.run = (.ok t, after.note (.fetched "a" (.ok t))) := by
  intro t e build s after
  obtain ⟨⟨ns, hnotes, hconsistent⟩, -, herror⟩ := fetch_reentrant s "a" build
  obtain ⟨ho, -, -⟩ := herror e _ rfl rfl
  have hmem : .fetched "a" (.ok t) ∈ after.notes.map Prod.fst :=
    List.mem_cons_of_mem _ (List.mem_cons_of_mem _ List.mem_cons_self)
  rw [hnotes] at hmem
  have hget : after.cache.get? "a" = some t := (hconsistent.get?_iff _ _).2 (.inr ⟨rfl, hmem⟩)
  obtain ⟨-, hhit, -⟩ := fetch_reentrant after "a" build
  obtain ⟨ho', hafter⟩ := hhit t hget
  exact ⟨rfl, ho, hget, Prod.ext ho' hafter⟩

end ValueTypes.Cache
