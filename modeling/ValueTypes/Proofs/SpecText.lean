/-
  Spec texts and spec trees: taking a text apart and rendering a tree undo one another.

  A tree is well formed when each of its keys is a nonempty text without angle brackets and at most
  256 levels stand inside one another.  `TypeSpec.parts` writes down what a tree should be taken
  apart into: its levels, each with the text of its own subtree, and its innermost key.  The work is
  one equivalence about the loop, `splitWithin_eq_ok_iff`: with `room` levels allowed, the loop
  gives parts on a text exactly if they are the parts of a keyed tree of at most that depth whose
  rendering is the text.

  * Sound: the loop peels one level in one way only (`peel_eq_ok_iff`), so an accepted text is the
    rendering of the tree of its parts; induction on `room`.
  * Complete: a keyed tree renders to a text whose first `<` ends the outermost container and whose
    last character closes it; induction on the tree.

  Everything said of `split` and `parse` is read off this equivalence.
-/
import ValueTypes.TypeSpec

namespace ValueTypes.TypeSpec

/-! ## Well-formed trees and their parts -/

/-- A text that may stand as a key in a spec. -/
def IsKey (s : String) : Prop := s ≠ "" ∧ '<' ∉ s.toList ∧ '>' ∉ s.toList

/-- Every key of the tree may stand in a spec. -/
def Keyed : TypeSpec → Prop
  | simple key => IsKey key
  | parametric container member => IsKey container ∧ member.Keyed

/-- A tree that a text can stand for. -/
structure WellFormed (t : TypeSpec) : Prop where
  keyed : t.Keyed
  shallow : t.depth ≤ maxDepth

/-- The levels of a tree, each with the text of its subtree, and the innermost key. -/
def parts : TypeSpec → Parts
  | simple key => ⟨[], key⟩
  | parametric container member =>
    ⟨⟨container, (parametric container member).render⟩ :: member.parts.levels, member.parts.leaf⟩

/-- The parts of a tree hold the whole tree. -/
@[simp] theorem parts_tree (t : TypeSpec) : t.parts.tree = t := by
  induction t with
  | simple key => rfl
  | parametric container member ih =>
    show parametric container member.parts.tree = _
    rw [ih]

/-- The member of a well formed spec is well formed. -/
theorem WellFormed.member {container : String} {member : TypeSpec}
    (h : (parametric container member).WellFormed) : member.WellFormed :=
  ⟨h.keyed.2, Nat.le_of_succ_le h.shallow⟩

/-- The brackets of a container stand around its member. -/
theorem render_parametric_toList (container : String) (member : TypeSpec) :
    (parametric container member).render.toList
      = container.toList ++ '<' :: (member.render.toList ++ ['>']) := by
  simp [render]

theorem Keyed.render_ne_nil {t : TypeSpec} (h : t.Keyed) : t.render.toList ≠ [] := by
  cases t with
  | simple key =>
    have hne : key ≠ "" := h.1
    simpa [render] using hne
  | parametric container member => simp [render_parametric_toList]

/-! ## One step of the loop -/

/-- What is left without brackets is a leaf exactly if it is a key. -/
theorem leaf?_eq_ok_iff {cs : List Char} {key : String} (hopen : '<' ∉ cs) :
    leaf? cs = .ok key ↔ IsKey key ∧ key.toList = cs := by
  unfold leaf?
  constructor
  · intro h
    split at h
    · cases h
    · rename_i hclose
      split at h
      · cases h
      · rename_i hne
        cases h
        refine ⟨⟨fun he => hne ?_, ?_, ?_⟩, String.toList_ofList⟩
        · simpa using congrArg String.toList he
        · rwa [String.toList_ofList]
        · rwa [String.toList_ofList]
  · rintro ⟨⟨hne, -, hclose⟩, rfl⟩
    rw [if_neg hclose, if_neg (by simpa using hne), String.ofList_toList]

/-- The text before the first `<` is what `takeWhile` takes. -/
theorem takeWhile_before_open {c : List Char} (hc : '<' ∉ c) (rest : List Char) :
    (c ++ '<' :: rest).takeWhile (· ≠ '<') = c := by
  induction c with
  | nil => simp
  | cons x c ih =>
    have hx : x ≠ '<' := fun h => hc (by simp [h])
    have ht : '<' ∉ c := fun h => hc (by simp [h])
    simpa [hx] using ih ht

/-- Peeling, with the container already told apart from what follows its `<`. -/
theorem peel_append {c : List Char} (hc : '<' ∉ c) (rest : List Char) :
    peel (c ++ '<' :: rest) =
      if c = [] then .error .noContainer
      else if '>' ∈ c then .error .closedContainer
      else if ('<' :: rest).getLast? ≠ some '>' then .error .notClosed
      else if rest.dropLast = [] then .error .noMember
      else .ok (String.ofList c, rest.dropLast) := by
  have hdrop : (c ++ '<' :: rest).drop (c.length + 1) = rest := by simp
  have hlast : (c ++ '<' :: rest).getLast? = ('<' :: rest).getLast? := by
    rw [List.getLast?_append]
    cases h : ('<' :: rest).getLast? with
    | none => simp at h
    | some x => rfl
  simp only [peel, takeWhile_before_open hc, hdrop, hlast]

/-- A level is peeled off in one way only: a key, `<`, a nonempty member text, and `>`. -/
theorem peel_eq_ok_iff {cs member : List Char} {container : String} (hopen : '<' ∈ cs) :
    peel cs = .ok (container, member) ↔
      IsKey container ∧ member ≠ [] ∧ cs = container.toList ++ '<' :: (member ++ ['>']) := by
  constructor
  · intro h
    obtain ⟨c, rest, rfl, hc⟩ := List.eq_append_cons_of_mem hopen
    rw [peel_append hc] at h
    split at h
    · cases h
    split at h
    · cases h
    split at h
    · cases h
    split at h
    · cases h
    rename_i hne hclose hlast hmember
    cases h
    -- the last character closes the level, so something follows the `<`
    obtain ⟨init, last, rfl⟩ : ∃ init last, rest = init ++ [last] := by
      rcases List.eq_nil_or_concat rest with rfl | ⟨init, last, rfl⟩
      · exact absurd rfl hmember
      · exact ⟨init, last, by simp⟩
    have hgt : last = '>' := by
      have hl : ('<' :: (init ++ [last])).getLast? = some '>' := Decidable.not_not.1 hlast
      rw [← List.cons_append, List.getLast?_concat] at hl
      exact Option.some.inj hl
    subst hgt
    rw [List.dropLast_concat] at hmember ⊢
    refine ⟨⟨fun he => hne ?_, ?_, ?_⟩, hmember, ?_⟩
    · simpa using congrArg String.toList he
    · rwa [String.toList_ofList]
    · rwa [String.toList_ofList]
    · rw [String.toList_ofList]
  · rintro ⟨⟨hne, hlt, hgt⟩, hmember, rfl⟩
    have hlast : ('<' :: (member ++ ['>'])).getLast? = some '>' := by
      rw [← List.cons_append, List.getLast?_concat]
    rw [peel_append hlt, if_neg (by simpa using hne), if_neg hgt, if_neg (not_not_intro hlast),
      List.dropLast_concat, if_neg hmember, String.ofList_toList]

/-! ## The loop -/

/-- Without a `<` the loop ends at once, with the text as the innermost key. -/
theorem splitWithin_leaf_iff {room : Nat} {cs : List Char} {p : Parts} (hopen : '<' ∉ cs) :
    splitWithin room cs = .ok p ↔ ∃ key, IsKey key ∧ key.toList = cs ∧ p = ⟨[], key⟩ := by
  rw [splitWithin.eq_def, if_neg hopen]
  constructor
  · intro h
    cases hl : leaf? cs with
    | error e =>
      rw [hl] at h
      cases h
    | ok key =>
      rw [hl] at h
      obtain ⟨hkey, htext⟩ := (leaf?_eq_ok_iff hopen).1 hl
      exact ⟨key, hkey, htext, (Except.ok.inj h).symm⟩
  · rintro ⟨key, hkey, htext, rfl⟩
    rw [(leaf?_eq_ok_iff hopen).2 ⟨hkey, htext⟩]
    rfl

/-- With a `<` the loop peels one level, for which there must be room, and goes on inside. -/
theorem splitWithin_level_iff {room : Nat} {cs : List Char} {p : Parts} (hopen : '<' ∈ cs) :
    splitWithin room cs = .ok p ↔
      ∃ left container member q, room = left + 1 ∧ peel cs = .ok (container, member) ∧
        splitWithin left member = .ok q ∧
        p = ⟨⟨container, String.ofList cs⟩ :: q.levels, q.leaf⟩ := by
  cases room with
  | zero =>
    rw [splitWithin, if_pos hopen]
    constructor
    · intro h
      cases h
    · rintro ⟨left, _, _, _, h, -⟩
      omega
  | succ room =>
    rw [splitWithin, if_pos hopen]
    constructor
    · intro h
      cases hp : peel cs with
      | error e =>
        rw [hp] at h
        cases h
      | ok level =>
        obtain ⟨container, member⟩ := level
        rw [hp] at h
        cases hs : splitWithin room member with
        | error e =>
          simp only [hs] at h
          cases h
        | ok q =>
          simp only [hs] at h
          exact ⟨room, container, member, q, rfl, rfl, hs, (Except.ok.inj h).symm⟩
    · rintro ⟨left, container, member, q, hroom, hp, hs, rfl⟩
      obtain rfl : room = left := Nat.succ.inj hroom
      simp only [hp, hs]

/-- What the loop accepts is the rendering of a tree, and its parts are the parts of that tree. -/
theorem splitWithin_sound : ∀ (room : Nat) (cs : List Char) (p : Parts),
    splitWithin room cs = .ok p →
      ∃ t : TypeSpec, t.Keyed ∧ t.depth ≤ room ∧ t.render.toList = cs ∧ t.parts = p := by
  intro room
  induction room with
  | zero =>
    intro cs p h
    by_cases hopen : '<' ∈ cs
    · obtain ⟨left, _, _, _, hroom, -⟩ := (splitWithin_level_iff hopen).1 h
      omega
    · obtain ⟨key, hkey, htext, rfl⟩ := (splitWithin_leaf_iff hopen).1 h
      exact ⟨simple key, hkey, Nat.le_refl 0, htext, rfl⟩
  | succ room ih =>
    intro cs p h
    by_cases hopen : '<' ∈ cs
    · obtain ⟨left, container, member, q, hroom, hp, hs, rfl⟩ := (splitWithin_level_iff hopen).1 h
      obtain rfl : room = left := Nat.succ.inj hroom
      obtain ⟨hkey, -, htext⟩ := (peel_eq_ok_iff hopen).1 hp
      obtain ⟨t, hkeyed, hdepth, hrender, rfl⟩ := ih member q hs
      have hlevel : (parametric container t).render.toList = cs := by
        rw [render_parametric_toList, hrender, htext]
      refine ⟨parametric container t, ⟨hkey, hkeyed⟩, Nat.succ_le_succ hdepth, hlevel, ?_⟩
      rw [parts, ← hlevel, String.ofList_toList]
    · obtain ⟨key, hkey, htext, rfl⟩ := (splitWithin_leaf_iff hopen).1 h
      exact ⟨simple key, hkey, Nat.zero_le _, htext, rfl⟩

/-- A keyed tree for which there is room is read back from its rendering. -/
theorem splitWithin_complete (t : TypeSpec) : ∀ room : Nat, t.Keyed → t.depth ≤ room →
    splitWithin room t.render.toList = .ok t.parts := by
  induction t with
  | simple key =>
    intro room hkeyed _
    exact (splitWithin_leaf_iff hkeyed.2.1).2 ⟨key, hkeyed, rfl, rfl⟩
  | parametric container member ih =>
    intro room hkeyed hdepth
    have hopen : '<' ∈ (parametric container member).render.toList := by
      simp [render_parametric_toList]
    obtain ⟨left, rfl⟩ : ∃ left, room = left + 1 :=
      Nat.exists_eq_succ_of_ne_zero (by rw [depth] at hdepth; omega)
    refine (splitWithin_level_iff hopen).2
      ⟨left, container, member.render.toList, member.parts, rfl, ?_, ?_, ?_⟩
    · exact (peel_eq_ok_iff hopen).2
        ⟨hkeyed.1, hkeyed.2.render_ne_nil, render_parametric_toList container member⟩
    · exact ih left hkeyed.2 (Nat.le_of_succ_le_succ hdepth)
    · rw [parts, String.ofList_toList]

/-- A text is split exactly if it is the written form of a spec that is not too deep. -/
theorem splitWithin_eq_ok_iff {room : Nat} {cs : List Char} {p : Parts} :
    splitWithin room cs = .ok p ↔
      ∃ t : TypeSpec, t.Keyed ∧ t.depth ≤ room ∧ t.render.toList = cs ∧ t.parts = p := by
  constructor
  · exact splitWithin_sound room cs p
  · rintro ⟨t, hkeyed, hdepth, rfl, rfl⟩
    exact splitWithin_complete t room hkeyed hdepth

/-! ## Texts and trees -/

/-- A text is taken apart exactly if it is the rendering of a well-formed tree, into its parts. -/
theorem split_eq_ok_iff {s : String} {p : Parts} :
    split s = .ok p ↔ ∃ t : TypeSpec, t.WellFormed ∧ t.render = s ∧ t.parts = p := by
  have hmap : split s = .ok p ↔ splitWithin maxDepth s.toList = .ok p := by
    unfold split
    cases splitWithin maxDepth s.toList with
    | error fault =>
      constructor
      · intro h
        cases h
      · intro h
        cases h
    | ok q =>
      constructor
      · intro h
        cases h
        rfl
      · intro h
        cases h
        rfl
  rw [hmap, splitWithin_eq_ok_iff]
  constructor
  · rintro ⟨t, hkeyed, hdepth, htext, hp⟩
    exact ⟨t, ⟨hkeyed, hdepth⟩, String.toList_injective htext, hp⟩
  · rintro ⟨t, ⟨hkeyed, hdepth⟩, rfl, hp⟩
    exact ⟨t, hkeyed, hdepth, rfl, hp⟩

/-- The written form of a spec is split into its parts. -/
theorem split_render {t : TypeSpec} (h : t.WellFormed) : split t.render = .ok t.parts :=
  split_eq_ok_iff.2 ⟨t, h, rfl, rfl⟩

/-- A text is read as a spec exactly if it is its written form. -/
theorem parse_eq_ok_iff {s : String} {t : TypeSpec} :
    parse s = .ok t ↔ t.WellFormed ∧ t.render = s := by
  have hmap : parse s = .ok t ↔ ∃ p, split s = .ok p ∧ p.tree = t := by
    unfold parse
    cases split s with
    | error e => simp [Except.map]
    | ok q => simp [Except.map]
  rw [hmap]
  constructor
  · rintro ⟨p, hs, rfl⟩
    obtain ⟨t, hwf, hrender, rfl⟩ := split_eq_ok_iff.1 hs
    rw [parts_tree]
    exact ⟨hwf, hrender⟩
  · rintro ⟨hwf, rfl⟩
    exact ⟨t.parts, split_render hwf, parts_tree t⟩

/-- Two well-formed trees of the same text are the same tree. -/
theorem WellFormed.render_injective {t u : TypeSpec} (ht : t.WellFormed) (hu : u.WellFormed)
    (h : t.render = u.render) : t = u := by
  have hparse : parse u.render = .ok t := parse_eq_ok_iff.2 ⟨ht, h⟩
  rw [parse_eq_ok_iff.2 ⟨hu, rfl⟩] at hparse
  exact (Except.ok.inj hparse).symm

/-- Taking a text apart fails with the whole text and the wording of a fault. -/
theorem split_eq_error {s : String} {e : TypeError} (h : split s = .error e) :
    ∃ fault : Fault, e = .malformedSpec s fault.reason := by
  unfold split at h
  cases hw : splitWithin maxDepth s.toList with
  | ok p =>
    rw [hw] at h
    cases h
  | error fault =>
    rw [hw] at h
    exact ⟨fault, (Except.error.inj h).symm⟩

/-- Parsing fails where taking apart does, with the same error. -/
theorem parse_eq_error_iff {s : String} {e : TypeError} :
    parse s = .error e ↔ split s = .error e := by
  unfold parse
  cases split s <;> simp [Except.map]

/-! ## Main result -/

/-- **Parsing inverts rendering.**  A text parses to a tree exactly if the tree is well formed and
    the text is its rendering; a text that is the rendering of no well-formed tree is refused with
    an error that holds all of it; and two texts that parse to one tree are one text. -/
theorem parse_inverts_render (s : String) :
    (∀ t, parse s = .ok t ↔ t.WellFormed ∧ t.render = s) ∧
    ((∀ t : TypeSpec, t.WellFormed → t.render ≠ s) →
      ∃ fault : Fault, parse s = .error (.malformedSpec s fault.reason)) ∧
    (∀ s' t, parse s = .ok t → parse s' = .ok t → s = s') := by
  refine ⟨fun t => parse_eq_ok_iff, fun hnone => ?_, fun s' t hs hs' => ?_⟩
  · cases hparse : parse s with
    | ok t =>
      obtain ⟨hwf, hrender⟩ := parse_eq_ok_iff.1 hparse
      exact absurd hrender (hnone t hwf)
    | error e =>
      obtain ⟨fault, rfl⟩ := split_eq_error (parse_eq_error_iff.1 hparse)
      exact ⟨fault, rfl⟩
  · rw [← (parse_eq_ok_iff.1 hs).2, ← (parse_eq_ok_iff.1 hs').2]

/-- A text that is the rendering of a tree, and one that is the rendering of none. -/
theorem parse_inverts_render_at_array :
    parse "array<string>" = .ok (.parametric "array" (.simple "string")) ∧
      ∃ fault : Fault,
        parse "array<string" = .error (.malformedSpec "array<string" fault.reason) := by
  obtain ⟨hok, -, -⟩ := parse_inverts_render "array<string>"
  obtain ⟨hok', herror, -⟩ := parse_inverts_render "array<string"
  refine ⟨(hok _).2 ⟨⟨⟨?_, ?_⟩, ?_⟩, ?_⟩, herror ?_⟩
  · exact ⟨by decide, by decide, by decide⟩
  · exact ⟨by decide, by decide, by decide⟩
  · decide
  · rfl
  · intro t hwf hrender
    have hparse : parse "array<string" = .ok t := (hok' t).2 ⟨hwf, hrender⟩
    have hfails : parse "array<string"
        = .error (.malformedSpec "array<string" Fault.notClosed.reason) := rfl
    rw [hfails] at hparse
    cases hparse

end ValueTypes.TypeSpec
