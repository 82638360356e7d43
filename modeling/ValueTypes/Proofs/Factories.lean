/-
  Lazy factories run once.

  A registration of a factory is known by its ticket, and the registry notes the ticket each time
  the factory is applied (`Registry.noted_iff_drawn`).  From its registration on, a ticket is in one
  of two states:

  * it is held (`State.Held`): the key is bound to the factory, no other key is, and the factory has
    run once if its type is kept there, and never otherwise;
  * it is retired (`State.Retired`): no key is bound to the factory, so it will not run again.

  One event keeps a held ticket held, unless it registers the key, which retires the ticket
  (`Held.turn_other`, `Held.turn_first`, `Held.turn_again`, `Held.retire`); a retired ticket stays
  retired (`Retired.turn`).  A ticket that is not given yet is as good as retired, so a registration
  starts with a ticket that no factory ran under.

  What the registry answers follows from the last registration of the key alone, up to the number on
  which a factory was run (`Registry.Follows`).
-/
import ValueTypes.Proofs.Events

namespace ValueTypes

variable {σ : Type}

/-! ## Bindings and look-ups -/

/-- What is bound after a binding is the one that was made, or was there before. -/
theorem Registry.get?_bind_cases {r : Registry σ} {key other : String} {b c : Binding σ}
    (h : (r.bind key b).bindings.get? other = some c) :
    (other = key ∧ c = b) ∨ (other ≠ key ∧ r.bindings.get? other = some c) := by
  rw [bind, Dict.get?_insert] at h
  split at h
  · rename_i heq
    cases h
    exact .inl ⟨heq, rfl⟩
  · rename_i hne
    exact .inr ⟨hne, h⟩

/-- A look-up leaves all as it is and gives what the registry answers, or it runs the factory that is
    bound to the key and keeps its type.  It notes the run then, and the numbers that it draws are
    those of one application. -/
theorem Registry.resolve_cases {r r' : Registry σ} {next next' : Nat} {key : String}
    {o : Except TypeError (Ty σ)} (h : r.resolve next key = (o, r', next')) :
    (r' = r ∧ next' = next ∧ r.Answers key o) ∨
    ∃ factory ticket, r.bindings.get? key = some (.lazy factory ticket none) ∧
      o = .ok (factory next).1 ∧
      r'.bindings = (r.bind key (.lazy factory ticket (some (factory next).1))).bindings ∧
      r'.runs = ticket :: r.runs ∧ next' = max next (factory next).2 := by
  obtain ⟨-, hans, -⟩ := resolve_answers h
  unfold resolve at h
  split at h
  · cases h
    exact .inl ⟨rfl, rfl, hans⟩
  · cases h
    exact .inl ⟨rfl, rfl, hans⟩
  · cases h
    exact .inl ⟨rfl, rfl, hans⟩
  · rename_i factory ticket hk
    cases h
    exact .inr ⟨factory, ticket, hk, rfl, rfl, rfl, rfl⟩

/-- The notes count applications: where every factory draws numbers when it is applied, a look-up
    notes a run exactly if numbers are drawn, and then the noted factory was applied once. -/
theorem Registry.noted_iff_drawn {r r' : Registry σ} {next next' : Nat} {key : String}
    {o : Except TypeError (Ty σ)} (h : r.resolve next key = (o, r', next'))
    (hdraws : ∀ factory ticket, r.bindings.get? key = some (.lazy factory ticket none) →
      next < (factory next).2) :
    (r'.runs ≠ r.runs ↔ next' ≠ next) ∧
    ∀ ticket, r'.runs = ticket :: r.runs →
      ∃ factory, r.bindings.get? key = some (.lazy factory ticket none) ∧
        (o, next') = (.ok (factory next).1, (factory next).2) := by
  rcases resolve_cases h with ⟨rfl, rfl, -⟩ | ⟨factory, ran, hk, rfl, -, hruns, hnext⟩
  · refine ⟨iff_of_false (fun h => h rfl) (fun h => h rfl), fun ticket hnoted => ?_⟩
    exact absurd hnoted.symm (List.cons_ne_self _ _)
  · have hdrawn := hdraws factory ran hk
    rw [Nat.max_eq_right (Nat.le_of_lt hdrawn)] at hnext
    refine ⟨iff_of_true ?_ (by omega), fun ticket hnoted => ?_⟩
    · rw [hruns]
      exact List.cons_ne_self _ _
    · rw [hruns] at hnoted
      obtain ⟨rfl, -⟩ := List.cons.inj hnoted
      exact ⟨factory, hk, by rw [hnext]⟩

/-- How a factory serves the look-ups of its key among some events, and how often it runs for that.
    Without a look-up it does not run; otherwise it runs once, on some number, and all look-ups give
    the one type that it makes then. -/
inductive Factory.Serves (factory : Factory σ) (key : String) (es : List (Event σ)) :
    Nat → Prop where
  | never (h : ∀ o, .lookup key o ∉ es) : Serves factory key es 0
  | once (n : Nat) (h : ∃ o, .lookup key o ∈ es)
    (hall : ∀ o, .lookup key o ∈ es → o = .ok (factory n).1) : Serves factory key es 1

/-- Only the look-ups of the key count. -/
theorem Factory.Serves.of_mem_iff {factory : Factory σ} {key : String} {es fs : List (Event σ)}
    {count : Nat} (h : Factory.Serves factory key es count)
    (hmem : ∀ o, .lookup key o ∈ fs ↔ .lookup key o ∈ es) :
    Factory.Serves factory key fs count := by
  cases h with
  | never h => exact .never (fun o ho => h o ((hmem o).1 ho))
  | once n h hall =>
    obtain ⟨o, ho⟩ := h
    exact .once n ⟨o, (hmem o).2 ho⟩ (fun o ho => hall o ((hmem o).1 ho))

namespace Registry.State

/-! ## One event -/

/-- Numbers are drawn and never given back. -/
theorem Turn.next_le {s s' : State σ} {e : Event σ} (h : s.Turn e s') : s.next ≤ s'.next := by
  cases h with
  | lookup h => exact (resolve_answers h).2.2
  | register key t => exact Nat.le_refl _
  | registerLazy key factory => exact Nat.le_succ _

theorem Plays.next_le {s s' : State σ} {es : List (Event σ)} (h : s.Plays es s') :
    s.next ≤ s'.next := by
  induction h with
  | nil => exact Nat.le_refl _
  | draw hnext _ ih => exact Nat.le_trans hnext ih
  | event he _ ih => exact Nat.le_trans he.next_le ih

/-- A registration binds its key, a factory under the next number, which is used up by that. -/
theorem Turn.of_register {s s' : State σ} {key : String} {what : Registration σ}
    (h : s.Turn (.register key what) s') :
    s'.registry = s.registry.bind key what.binding ∧
    ∀ factory ticket built, .lazy factory ticket built = what.binding →
      built = none ∧ ticket = s.next ∧ s'.next = s.next + 1 := by
  cases h with
  | register key t =>
    refine ⟨rfl, ?_⟩
    intro factory ticket built h
    cases h
  | registerLazy key factory =>
    refine ⟨rfl, ?_⟩
    intro factory' ticket built h
    cases h
    exact ⟨rfl, rfl, rfl⟩

/-! ## Retired tickets -/

/-- No key is bound to a factory under the ticket, and `count` times one was run. -/
structure Retired (s : State σ) (ticket count : Nat) : Prop where
  unbound : ∀ key factory built,
    s.registry.bindings.get? key ≠ some (.lazy factory ticket built)
  count : s.registry.timesRun ticket = count

/-- A ticket stays retired, unless it is given to a registration. -/
theorem Retired.turn {s s' : State σ} {e : Event σ} {ticket count : Nat}
    (h : s.Retired ticket count) (he : s.Turn e s')
    (hother : ticket < s.next ∨ s'.next ≤ ticket) : s'.Retired ticket count := by
  cases e with
  | lookup key o =>
    cases he with
    | lookup hresolve =>
      rcases resolve_cases hresolve with ⟨rfl, -⟩ | ⟨factory, ran, hk, -, hbindings, hruns, -⟩
      · exact ⟨h.unbound, h.count⟩
      · have hne : ran ≠ ticket := by
          rintro rfl
          exact h.unbound _ _ _ hk
        refine ⟨?_, ?_⟩
        · intro other factory' built hbound
          rw [hbindings] at hbound
          rcases get?_bind_cases hbound with ⟨-, heq⟩ | ⟨-, hbound⟩
          · cases heq
            exact hne rfl
          · exact h.unbound _ _ _ hbound
        · rw [timesRun, hruns, List.count_cons_of_ne hne]
          exact h.count
  | register key what =>
    obtain ⟨hregistry, hgiven⟩ := he.of_register
    refine ⟨?_, ?_⟩
    · intro other factory built hbound
      rw [hregistry] at hbound
      rcases get?_bind_cases hbound with ⟨-, heq⟩ | ⟨-, hbound⟩
      · obtain ⟨-, hticket, hnext⟩ := hgiven _ _ _ heq
        omega
      · exact h.unbound _ _ _ hbound
    · rw [hregistry]
      exact h.count

/-- A ticket that was given and is retired stays so. -/
theorem Retired.plays {s s' : State σ} {es : List (Event σ)} (h : s.Plays es s')
    {ticket count : Nat} (hretired : s.Retired ticket count) (hgiven : ticket < s.next) :
    s'.Retired ticket count := by
  induction h with
  | nil => exact hretired
  | draw hnext _ ih => exact ih ⟨hretired.unbound, hretired.count⟩ (Nat.lt_of_lt_of_le hgiven hnext)
  | event he _ ih =>
    exact ih (hretired.turn he (.inl hgiven)) (Nat.lt_of_lt_of_le hgiven he.next_le)

/-- No ticket from the next number on is in use. -/
def Ahead (s : State σ) : Prop := ∀ ticket, s.next ≤ ticket → s.Retired ticket 0

/-- A whole run keeps the next number ahead of the numbers in use. -/
theorem Ahead.plays {s s' : State σ} {es : List (Event σ)} (h : s.Plays es s') (hs : s.Ahead) :
    s'.Ahead := by
  induction h with
  | nil => exact hs
  | draw hnext _ ih =>
    refine ih ?_
    intro ticket hle
    obtain ⟨hunbound, hcount⟩ := hs ticket (Nat.le_trans hnext hle)
    exact ⟨hunbound, hcount⟩
  | event he _ ih =>
    refine ih ?_
    intro ticket hle
    exact (hs ticket (Nat.le_trans he.next_le hle)).turn he (.inr hle)

/-! ## Held tickets -/

/-- The key, and no other, is bound to the factory under the ticket, which has run if its type is
    there. -/
structure Held (s : State σ) (key : String) (factory : Factory σ) (ticket : Nat)
    (built : Option (Ty σ)) : Prop where
  bound : s.registry.bindings.get? key = some (.lazy factory ticket built)
  only : ∀ other factory' built',
    s.registry.bindings.get? other = some (.lazy factory' ticket built') → other = key
  given : ticket < s.next
  count : s.registry.timesRun ticket = built.toList.length

variable {s s' : State σ} {key : String} {factory : Factory σ} {ticket : Nat}
  {built : Option (Ty σ)}

theorem Held.draw (h : s.Held key factory ticket built) {next : Nat} (hnext : s.next ≤ next) :
    Held ⟨s.registry, next⟩ key factory ticket built :=
  ⟨h.bound, h.only, Nat.lt_of_lt_of_le h.given hnext, h.count⟩

/-- A registration holds its ticket, under which no factory has run. -/
theorem held_of_registerLazy (hs : s.Ahead)
    (he : s.Turn (.register key (.lazy factory ticket)) s') :
    s'.Held key factory ticket none := by
  obtain ⟨hregistry, hgiven⟩ := he.of_register
  obtain ⟨-, rfl, hnext⟩ := hgiven factory ticket none rfl
  obtain ⟨hunbound, hcount⟩ := hs s.next (Nat.le_refl _)
  refine ⟨?_, ?_, by omega, ?_⟩
  · rw [hregistry]
    exact Dict.get?_insert_self _ _ _
  · intro other factory' built' hother
    rw [hregistry] at hother
    rcases get?_bind_cases hother with ⟨heq, -⟩ | ⟨-, hother⟩
    · exact heq
    · exact absurd hother (hunbound _ _ _)
  · rw [hregistry]
    exact hcount

/-- An event of another key leaves the ticket held. -/
theorem Held.turn_other {e : Event σ} (h : s.Held key factory ticket built) (he : s.Turn e s')
    (hregisters : e.registers? key = none) (hlooks : ∀ o, e ≠ .lookup key o) :
    s'.Held key factory ticket built := by
  have hgiven : ticket < s'.next := Nat.lt_of_lt_of_le h.given he.next_le
  cases e with
  | lookup other o =>
    have hne : other ≠ key := by
      rintro rfl
      exact hlooks o rfl
    cases he with
    | lookup hresolve =>
      rcases resolve_cases hresolve with ⟨rfl, -⟩ | ⟨factory', ran, hk, -, hbindings, hruns, -⟩
      · exact ⟨h.bound, h.only, hgiven, h.count⟩
      · -- another factory runs, and that under another ticket
        have hran : ran ≠ ticket := by
          rintro rfl
          exact hne (h.only _ _ _ hk)
        refine ⟨?_, ?_, hgiven, ?_⟩
        · rw [hbindings, bind, Dict.get?_insert_of_ne _ _ hne.symm]
          exact h.bound
        · intro k factory'' built' hk'
          rw [hbindings] at hk'
          rcases get?_bind_cases hk' with ⟨-, heq⟩ | ⟨-, hk'⟩
          · cases heq
            exact absurd rfl hran
          · exact h.only _ _ _ hk'
        · rw [timesRun, hruns, List.count_cons_of_ne hran]
          exact h.count
  | register other what =>
    have hne : other ≠ key := by
      rintro rfl
      rw [Event.registers?, if_pos rfl] at hregisters
      cases hregisters
    obtain ⟨hregistry, hfresh⟩ := he.of_register
    refine ⟨?_, ?_, hgiven, ?_⟩
    · rw [hregistry, bind, Dict.get?_insert_of_ne _ _ hne.symm]
      exact h.bound
    · intro k factory' built' hk
      rw [hregistry] at hk
      rcases get?_bind_cases hk with ⟨-, heq⟩ | ⟨-, hk⟩
      · obtain ⟨-, rfl, -⟩ := hfresh _ _ _ heq
        exact absurd h.given (Nat.lt_irrefl _)
      · exact h.only _ _ _ hk
    · rw [hregistry]
      exact h.count

/-- **The first look-up** runs the factory and keeps the type that it makes. -/
theorem Held.turn_first {o : Except TypeError (Ty σ)} (h : s.Held key factory ticket none)
    (he : s.Turn (.lookup key o) s') :
    ∃ n, o = .ok (factory n).1 ∧ s'.Held key factory ticket (some (factory n).1) := by
  have hgiven : ticket < s'.next := Nat.lt_of_lt_of_le h.given he.next_le
  have hbound := h.bound
  cases he with
  | lookup hresolve =>
    rcases resolve_cases hresolve with ⟨-, -, hans⟩ | ⟨factory', ran, hk, rfl, hbindings, hruns, -⟩
    · cases hans with
      | bound ht =>
        rw [settled?, hbound] at ht
        cases ht
      | unbound hn =>
        rw [hbound] at hn
        cases hn
    · rw [hbound] at hk
      cases hk
      refine ⟨s.next, rfl, ?_, ?_, hgiven, ?_⟩
      · rw [hbindings]
        exact Dict.get?_insert_self _ _ _
      · intro k factory' built' hk
        rw [hbindings] at hk
        rcases get?_bind_cases hk with ⟨heq, -⟩ | ⟨-, hk⟩
        · exact heq
        · exact h.only _ _ _ hk
      · have hcount : s.registry.timesRun ticket = 0 := h.count
        rw [timesRun, hruns, List.count_cons_self]
        exact congrArg Nat.succ hcount

/-- **Every look-up after it** gives the type that is kept. -/
theorem Held.turn_again {t : Ty σ} {o : Except TypeError (Ty σ)}
    (h : s.Held key factory ticket (some t)) (he : s.Turn (.lookup key o) s') :
    o = .ok t ∧ s'.Held key factory ticket (some t) := by
  cases he with
  | lookup hresolve =>
    have hsettled : s.registry.settled? key = some t := by
      rw [settled?, h.bound]
      rfl
    rw [resolve_of_settled? hsettled] at hresolve
    cases hresolve
    exact ⟨rfl, h⟩

/-- A registration of the key retires the ticket. -/
theorem Held.retire {what : Registration σ} (h : s.Held key factory ticket built)
    (he : s.Turn (.register key what) s') : s'.Retired ticket built.toList.length := by
  obtain ⟨hregistry, hfresh⟩ := he.of_register
  refine ⟨?_, ?_⟩
  · intro other factory' built' hother
    rw [hregistry] at hother
    rcases get?_bind_cases hother with ⟨-, heq⟩ | ⟨hne, hother⟩
    · obtain ⟨-, rfl, -⟩ := hfresh _ _ _ heq
      exact Nat.lt_irrefl _ h.given
    · exact hne (h.only _ _ _ hother)
  · rw [hregistry]
    exact h.count

/-! ## Until the key is registered again -/

/-- Once the type is there, it stays, and is what every look-up gives. -/
theorem Held.plays_again {es : List (Event σ)} (h : s.Plays es s') {t : Ty σ}
    (hs : s.Held key factory ticket (some t)) (hfree : ∀ e ∈ es, e.registers? key = none) :
    s'.Held key factory ticket (some t) ∧ ∀ o, .lookup key o ∈ es → o = .ok t := by
  induction h with
  | nil => exact ⟨hs, by rintro o ⟨⟩⟩
  | draw hnext _ ih => exact ih (hs.draw hnext) hfree
  | @event s mid s' e es he _ ih =>
    rw [List.forall_mem_cons] at hfree
    have hmid : mid.Held key factory ticket (some t) ∧ ∀ o, e = .lookup key o → o = .ok t := by
      by_cases hlooks : ∃ o, e = .lookup key o
      · obtain ⟨o, rfl⟩ := hlooks
        obtain ⟨ho, hmid⟩ := hs.turn_again he
        refine ⟨hmid, ?_⟩
        intro o' heq
        cases heq
        exact ho
      · refine ⟨hs.turn_other he hfree.1 (fun o heq => hlooks ⟨o, heq⟩), ?_⟩
        intro o heq
        exact absurd ⟨o, heq⟩ hlooks
    obtain ⟨hend, hrest⟩ := ih hmid.1 hfree.2
    refine ⟨hend, ?_⟩
    intro o ho
    rcases List.mem_cons.1 ho with heq | ho
    · exact hmid.2 o heq.symm
    · exact hrest o ho

/-- The factory serves the look-ups of its key: it runs once if there are any, and then every one of
    them gives the type that it makes. -/
theorem Held.plays {es : List (Event σ)} (h : s.Plays es s')
    (hs : s.Held key factory ticket none) (hfree : ∀ e ∈ es, e.registers? key = none) :
    ∃ built, s'.Held key factory ticket built ∧
      Factory.Serves factory key es built.toList.length := by
  induction h with
  | nil => exact ⟨none, hs, .never (by rintro o ⟨⟩)⟩
  | draw hnext _ ih => exact ih (hs.draw hnext) hfree
  | @event s mid s' e es he hrest ih =>
    rw [List.forall_mem_cons] at hfree
    by_cases hlooks : ∃ o, e = .lookup key o
    · -- the first look-up, after which the type is there
      obtain ⟨o, rfl⟩ := hlooks
      obtain ⟨n, rfl, hmid⟩ := hs.turn_first he
      obtain ⟨hend, hagain⟩ := hmid.plays_again hrest hfree.2
      refine ⟨some (factory n).1, hend, .once n ⟨_, List.mem_cons_self⟩ ?_⟩
      intro o ho
      rcases List.mem_cons.1 ho with heq | ho
      · cases heq
        rfl
      · exact hagain o ho
    · have hmem : ∀ o, .lookup key o ∈ e :: es ↔ .lookup key o ∈ es := by
        intro o
        rw [List.mem_cons]
        exact or_iff_right (fun heq => hlooks ⟨o, heq.symm⟩)
      have hmid := hs.turn_other he hfree.1 (fun o heq => hlooks ⟨o, heq⟩)
      obtain ⟨built, hend, hserves⟩ := ih hmid hfree.2
      exact ⟨built, hend, hserves.of_mem_iff hmem⟩

/-- **A registration of a factory**, from any registry in which its ticket is not in use: until the
    key is registered again, the factory serves its look-ups; and from then on it is retired. -/
theorem serves_of_plays {pre post : List (Event σ)} (hs : s.Ahead)
    (h : s.Plays (pre ++ .register key (.lazy factory ticket) :: post) s') :
    Factory.Serves factory key (Event.untilRegistered key post) (s'.registry.timesRun ticket) ∧
    ((∃ e ∈ post, e.registers? key ≠ none) →
      ticket < s'.next ∧ s'.Retired ticket (s'.registry.timesRun ticket)) := by
  obtain ⟨a, b, hpre, he, hpost⟩ := h.split
  have hheld : b.Held key factory ticket none := held_of_registerLazy (hs.plays hpre) he
  have hfree : ∀ e ∈ Event.untilRegistered key post, e.registers? key = none := by
    intro e hmem
    exact Option.isNone_iff_eq_none.1 (List.all_eq_true.1 List.all_takeWhile e hmem)
  rcases Event.untilRegistered_cases key post with heq | ⟨what, rest, heq⟩
  · -- the key is not registered again
    rw [heq] at hfree ⊢
    obtain ⟨built, hend, hserves⟩ := hheld.plays hpost hfree
    refine ⟨hend.count ▸ hserves, ?_⟩
    rintro ⟨e, hmem, hregisters⟩
    exact absurd (hfree e hmem) hregisters
  · rw [heq] at hpost
    obtain ⟨c, d, hcurrent, hagain, hrest⟩ := hpost.split
    obtain ⟨built, hend, hserves⟩ := hheld.plays hcurrent hfree
    have hgiven : ticket < d.next := Nat.lt_of_lt_of_le hend.given hagain.next_le
    have hretired : s'.Retired ticket built.toList.length :=
      (hend.retire hagain).plays hrest hgiven
    refine ⟨hretired.count ▸ hserves, ?_⟩
    intro _
    exact ⟨Nat.lt_of_lt_of_le hgiven hrest.next_le, hretired.unbound, rfl⟩

end Registry.State

/-! ## Last registrations -/

namespace Registry

/-- Every key is bound to what its last registration and later look-ups make of it. -/
def Follows (r : Registry σ) (es : List (Event σ)) : Prop :=
  ∀ key, Option.Rel (fun what b => what.binding.Advances b) (Event.lastRegistration key es)
    (r.bindings.get? key)

theorem Follows.advance {r r' : Registry σ} {es : List (Event σ)} (h : r.Follows es)
    (hadv : r.Advances r') : r'.Follows es := by
  intro key
  have hkey := h key
  have hrel := hadv key
  generalize r.bindings.get? key = b at hkey hrel
  generalize r'.bindings.get? key = c at hrel ⊢
  generalize Event.lastRegistration key es = what at hkey ⊢
  cases hkey with
  | none =>
    cases hrel
    exact .none
  | some hab =>
    cases hrel with
    | some hbc => exact .some (hab.trans hbc)

/-- One more event, and the registry still follows the log. -/
theorem Follows.turn {s s' : State σ} {es : List (Event σ)} {e : Event σ}
    (h : s.registry.Follows es) (he : s.Turn e s') : s'.registry.Follows (es ++ [e]) := by
  intro key
  rw [Event.lastRegistration_concat]
  cases e with
  | lookup k o =>
    cases he with
    | lookup hresolve => exact h.advance (resolve_answers hresolve).1 key
  | register k what =>
    rw [he.of_register.1, Event.registers?, bind, Dict.get?_insert]
    by_cases hkey : k = key
    · subst hkey
      rw [if_pos rfl, if_pos rfl]
      exact .some (.refl _)
    · rw [if_neg hkey, if_neg (Ne.symm hkey)]
      exact h key

/-- After a whole run the registry follows the longer log. -/
theorem Follows.plays {s s' : State σ} {pre es : List (Event σ)} (h : s.Plays es s')
    (hs : s.registry.Follows pre) : s'.registry.Follows (pre ++ es) := by
  induction h generalizing pre with
  | nil =>
    rw [List.append_nil]
    exact hs
  | draw _ _ ih => exact ih hs
  | event he _ ih =>
    rw [List.append_cons]
    exact ih (hs.turn he)

end Registry

/-- What a look-up of a key gives by the last registration of the key. -/
inductive Registration.Yields (key : String) :
    Option (Registration σ) → Except TypeError (Ty σ) → Prop where
  | unknown : Yields key none (.error (.unknownType key))
  | type (t : Ty σ) : Yields key (some (.type t)) (.ok t)
  /-- A type that the factory makes, on some number. -/
  | made (factory : Factory σ) (ticket n : Nat) :
    Yields key (some (.lazy factory ticket)) (.ok (factory n).1)

/-- What a registry answers is what the last registration of the key yields. -/
theorem Registry.Follows.yields {r : Registry σ} {es : List (Event σ)} {key : String}
    {o : Except TypeError (Ty σ)} (h : r.Follows es) (hans : r.Answers key o) :
    Registration.Yields key (Event.lastRegistration key es) o := by
  have hrel := h key
  generalize Event.lastRegistration key es = what at hrel ⊢
  cases hans with
  | unbound hn =>
    rw [hn] at hrel
    cases hrel
    exact .unknown
  | bound ht =>
    obtain ⟨b, hb, hsettled⟩ := Option.bind_eq_some_iff.1 ht
    rw [hb] at hrel
    cases hrel with
    | @some what b hadvances =>
      cases what with
      | type u =>
        cases hadvances
        cases hsettled
        exact .type _
      | lazy factory ticket =>
        cases hadvances with
        | refl => cases hsettled
        | run factory ticket n =>
          cases hsettled
          exact .made factory ticket n

/-! ## Main result -/

namespace Context

theorem empty_ahead : (empty : Context σ).state.Ahead := by
  intro ticket _
  exact ⟨fun key factory built => by rintro ⟨⟩, rfl⟩

theorem empty_follows : (empty : Context σ).registry.Follows [] := fun _ => .none

/-- **A lazy factory runs at most once for a registration, and its type stays.**  In every run, a
    factory that is registered serves the look-ups of its key that reach the registry until the key
    is registered again, and does not run after that, however the run goes on.  Every look-up gives
    what the last registration of its key yields. -/
theorem factory_runs_once {after : Context σ} {es : List (Event σ)}
    (h : (empty : Context σ).Traces es after) :
    (∀ pre key factory ticket post, es = pre ++ .register key (.lazy factory ticket) :: post →
      Factory.Serves factory key (Event.untilRegistered key post)
        (after.registry.timesRun ticket) ∧
      ((∃ e ∈ post, e.registers? key ≠ none) → ∀ later fs, after.Traces fs later →
        later.registry.timesRun ticket = after.registry.timesRun ticket)) ∧
    ∀ pre key o post, es = pre ++ .lookup key o :: post →
      Registration.Yields key (Event.lastRegistration key pre) o := by
  have hplays := h.plays
  constructor
  · rintro pre key factory ticket post rfl
    obtain ⟨hserves, hretired⟩ := Registry.State.serves_of_plays empty_ahead hplays
    refine ⟨hserves, ?_⟩
    intro hagain later fs hlater
    obtain ⟨hgiven, hretired⟩ := hretired hagain
    exact (hretired.plays hlater.plays hgiven).count
  · rintro pre key o post rfl
    obtain ⟨a, b, hpre, he, -⟩ := hplays.split
    have hfollows : a.registry.Follows pre := empty_follows.plays hpre
    cases he with
    | lookup hresolve =>
      obtain ⟨hadv, hans, -⟩ := Registry.resolve_answers hresolve
      exact (hfollows.advance hadv).yields hans

/-- A factory is looked up through the cache, and again after the cache was cleared; then its key is
    registered anew. -/
theorem factory_runs_once_after_clearing :
    let factory : Factory Empty := fun n => (.nominal n .string, n + 1)
    let t : Ty Empty := .nominal 1 .string
    let u : Ty Empty := .nominal 7 .nil
    ∃ after, (empty : Context Empty).Traces
        [.register "text" (.lazy factory 0), .lookup "text" (.ok t), .lookup "text" (.ok t),
          .register "text" (.type u), .lookup "text" (.ok u)] after ∧
      Factory.Serves factory "text" [.lookup "text" (.ok t), .lookup "text" (.ok t)]
        (after.registry.timesRun 0) ∧
      (Action.run after (.lookup "text")).registry.timesRun 0 = after.registry.timesRun 0 ∧
      Registration.Yields "text" (some (.type u)) (.ok u) := by
  intro factory t u
  let registered : Context Empty := empty.registerLazy "text" factory
  let resolved : Context Empty := (registered.resolve "text").2
  let again : Context Empty := (resolved.clearCache.resolve "text").2
  let after : Context Empty := ((again.register "text" u).lookup "text").2
  have hregistered := (Traces.nil (empty : Context Empty)).action (.registerLazy "text" factory)
  have hresolved := hregistered.action (.resolve (.spec "text"))
  have hagain := (hresolved.action .clearCache).action (.resolve (.spec "text"))
  have htraces : (empty : Context Empty).Traces
      [.register "text" (.lazy factory 0), .lookup "text" (.ok t), .lookup "text" (.ok t),
        .register "text" (.type u), .lookup "text" (.ok u)] after :=
    (hagain.action (.register "text" u)).action (.lookup "text")
  obtain ⟨hserves, hyields⟩ := factory_runs_once htraces
  obtain ⟨hserves, hretired⟩ := hserves [] "text" factory 0 _ rfl
  refine ⟨after, htraces, hserves, ?_, ?_⟩
  · have hregisters : Event.registers? "text" (.register "text" (.type u)) ≠ none := by
      rintro ⟨⟩
    have hlater := (Traces.nil after).action (.lookup "text")
    exact hretired ⟨_, List.mem_cons_of_mem _ (List.mem_cons_of_mem _ List.mem_cons_self),
      hregisters⟩ _ _ hlater
  · exact hyields [.register "text" (.lazy factory 0), .lookup "text" (.ok t),
      .lookup "text" (.ok t), .register "text" (.type u)] "text" (.ok u) [] rfl

end Context

end ValueTypes
