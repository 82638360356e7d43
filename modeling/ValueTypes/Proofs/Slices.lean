/-
  Taking a spec apart by slices of its text.

  A text is taken apart level by level, and every level is a slice of the one around it, between two
  byte offsets: the container lies before the first `<`, and the members lie after it and before the
  last byte.  A slice exists only if its offsets are in order, not beyond the end, and not within a
  character (`slice?`).  `TypeSpec.splitBySlices` is the loop with these slices, which fails where one
  does not exist; none ever fails, and the loop gives what `TypeSpec.splitWithin` gives
  (`splitBySlices_eq`), whatever the text.

  * The first `<` ends the container, and both brackets are one byte, so the offsets around them lie
    between characters; the closing bracket comes after the opening one, so they are in order.
  * The levels are the nested specs of the tree, each with its own text and key, so what is split off
    at one level is what splitting its text gives (`levels_parts`).
  * A text is longer than the texts nested in it by its container and its brackets, so no two of them
    are one (`texts_decrease`).
-/
import Mathlib.Data.String.Basic
import ValueTypes.Proofs.Caching

namespace ValueTypes

/-! ## Slices -/

/-- The part of a text between two byte offsets, which must be in order, in range and between
    characters. -/
def slice? (s : String) (start stop : Nat) : Option String :=
  if start ≤ stop ∧ String.Pos.Raw.isValid s ⟨start⟩ ∧ String.Pos.Raw.isValid s ⟨stop⟩ then
    some (String.Pos.Raw.extract s ⟨start⟩ ⟨stop⟩)
  else none

example : slice? "aé<b>" 4 5 = some "b" ∧ slice? "aé<b>" 0 2 = none := by decide +kernel

/-- A part of a text lies between the offsets at which it starts and ends. -/
theorem slice?_append (a b c : String) :
    slice? (a ++ b ++ c) a.utf8ByteSize (a.utf8ByteSize + b.utf8ByteSize) = some b := by
  have hstart : String.Pos.Raw.isValid (a ++ b ++ c) ⟨a.utf8ByteSize⟩ = true :=
    String.Pos.Raw.isValid_eq_true_iff.2
      (String.Pos.Raw.isValid_iff_exists_append.2 ⟨a, b ++ c, String.append_assoc, rfl⟩)
  have hstop : String.Pos.Raw.isValid (a ++ b ++ c) ⟨a.utf8ByteSize + b.utf8ByteSize⟩ = true := by
    refine String.Pos.Raw.isValid_eq_true_iff.2
      (String.Pos.Raw.isValid_iff_exists_append.2 ⟨a ++ b, c, rfl, ?_⟩)
    exact String.Pos.Raw.ext (String.utf8ByteSize_append).symm
  have hextract := String.extract_of_valid a.toList b.toList c.toList
  rw [slice?, if_pos ⟨Nat.le_add_right _ _, hstart, hstop⟩]
  simpa [String.append_assoc] using hextract

namespace TypeSpec

/-! ## The loop on slices -/

/-- The byte offset of the first `<`. -/
def openAt? (s : String) : Option Nat :=
  if '<' ∈ s.toList then some (String.ofList (s.toList.takeWhile (· ≠ '<'))).utf8ByteSize else none

/-- The container and the member text of a level, as slices of its text around the `<` at offset `i`;
    none if a slice does not exist. -/
def peelBySlices (s : String) (i : Nat) : Option (Except Fault (String × String)) :=
  match slice? s 0 i with
  | none => none
  | some container =>
    if container = "" then some (.error .noContainer)
    else if '>' ∈ container.toList then some (.error .closedContainer)
    else if s.toList.getLast? ≠ some '>' then some (.error .notClosed)
    else
      match slice? s (i + 1) (s.utf8ByteSize - 1) with
      | none => none
      | some member =>
        if member = "" then some (.error .noMember) else some (.ok (container, member))

/-- The parts of a text in which `room` more levels may stand, with every level a slice of the text
    around it; none if a slice does not exist. -/
def splitBySlices (room : Nat) (s : String) : Option (Except Fault Parts) :=
  match openAt? s with
  | none => some ((leaf? s.toList).map fun key => ⟨[], key⟩)
  | some i =>
    match room with
    | 0 => some (.error .tooDeep)
    | room + 1 =>
      match peelBySlices s i with
      | none => none
      | some (.error e) => some (.error e)
      | some (.ok (container, member)) =>
        (splitBySlices room member).map fun r =>
          r.map fun parts => ⟨⟨container, s⟩ :: parts.levels, parts.leaf⟩

theorem openAt?_append {container : String} (h : '<' ∉ container.toList) (rest : String) :
    openAt? (container ++ "<" ++ rest) = some container.utf8ByteSize := by
  have htext : (container ++ "<" ++ rest).toList = container.toList ++ '<' :: rest.toList := by
    simp
  rw [openAt?, htext, takeWhile_before_open h, if_pos (by simp), String.ofList_toList]

/-- The slice before a bracket is the container. -/
theorem slice?_container (container rest : String) :
    slice? (container ++ "<" ++ rest) 0 container.utf8ByteSize = some container := by
  have h := slice?_append "" container ("<" ++ rest)
  simpa [String.append_assoc] using h

/-- The slice after an opening and before a closing bracket is the member text. -/
theorem slice?_member (container member : String) :
    slice? (container ++ "<" ++ (member ++ ">")) (container.utf8ByteSize + 1)
      ((container ++ "<" ++ (member ++ ">")).utf8ByteSize - 1) = some member := by
  have hopen : (container ++ "<").utf8ByteSize = container.utf8ByteSize + 1 :=
    String.utf8ByteSize_append
  have hclose : (member ++ ">").utf8ByteSize = member.utf8ByteSize + 1 := String.utf8ByteSize_append
  have h := slice?_append (container ++ "<") member ">"
  rw [hopen, String.append_assoc] at h
  rw [String.utf8ByteSize_append, hopen, hclose]
  exact h

/-- One level by slices is one level by characters. -/
theorem peelBySlices_eq {container : String} (h : '<' ∉ container.toList) (rest : String) :
    peelBySlices (container ++ "<" ++ rest) container.utf8ByteSize
      = some ((peel (container ++ "<" ++ rest).toList).map
          fun level => (level.1, String.ofList level.2)) := by
  have htext : (container ++ "<" ++ rest).toList = container.toList ++ '<' :: rest.toList := by
    simp
  have hlast : (container ++ "<" ++ rest).toList.getLast? = ('<' :: rest.toList).getLast? := by
    rw [htext, List.getLast?_append_cons]
  rw [peelBySlices, slice?_container, hlast, htext, peel_append h]
  by_cases hempty : container = ""
  · subst hempty
    rfl
  have hne : container.toList ≠ [] := by simpa using hempty
  simp only [if_neg hempty, if_neg hne]
  by_cases hclose : '>' ∈ container.toList
  · simp only [if_pos hclose]
    rfl
  simp only [if_neg hclose]
  by_cases hend : ('<' :: rest.toList).getLast? = some '>'
  · -- the last byte is a bracket of its own, so the slice of the members ends before it
    obtain ⟨member, rfl⟩ : ∃ member, rest = member ++ ">" := by
      obtain ⟨init, hinit⟩ := List.getLast?_eq_some_iff.1 hend
      cases init with
      | nil => cases hinit
      | cons c init =>
        obtain ⟨-, hrest⟩ := List.cons.inj hinit
        exact ⟨String.ofList init, String.toList_injective (by simp [hrest])⟩
    have hmember : (member ++ ">").toList.dropLast = member.toList := by simp
    simp only [hend, ne_eq, not_true, if_false, slice?_member, hmember]
    by_cases hnone : member = ""
    · subst hnone
      rfl
    · have hsome : member.toList ≠ [] := by simpa using hnone
      simp only [if_neg hnone, if_neg hsome, Except.map, String.ofList_toList]
  · simp only [ne_eq, hend, not_false_iff, if_true]
    rfl

/-- **No slice fails**, whatever the text, and the loop on slices gives what the loop on characters
    gives. -/
theorem splitBySlices_eq (room : Nat) (s : String) :
    splitBySlices room s = some (splitWithin room s.toList) := by
  induction room generalizing s with
  | zero =>
    rw [splitBySlices, splitWithin, openAt?]
    by_cases hopen : '<' ∈ s.toList
    · simp only [if_pos hopen]
    · simp only [if_neg hopen]
  | succ room ih =>
    by_cases hopen : '<' ∈ s.toList
    · obtain ⟨container, rest, htext, hfree⟩ := List.eq_append_cons_of_mem hopen
      obtain rfl : s = String.ofList container ++ "<" ++ String.ofList rest :=
        String.toList_injective (by simp [htext])
      have hfree' : '<' ∉ (String.ofList container).toList := by rwa [String.toList_ofList]
      rw [splitBySlices, openAt?_append hfree', splitWithin, if_pos hopen]
      simp only [peelBySlices_eq hfree']
      cases peel (String.ofList container ++ "<" ++ String.ofList rest).toList with
      | error e => rfl
      | ok level =>
        simp only [Except.map, ih, String.toList_ofList, Option.map_some]
        cases splitWithin room level.2 with
        | error e => rfl
        | ok parts => simp only [String.ofList_toList]
    · rw [splitBySlices, splitWithin, openAt?]
      simp only [if_neg hopen]

/-! ## Levels and the tree -/

/-- The texts of the levels, outermost first, and the innermost key. -/
def Parts.texts (p : Parts) : List String := p.levels.map Level.text ++ [p.leaf]

theorem parts_texts (t : TypeSpec) : t.parts.texts = t.texts := by
  induction t with
  | simple key => rfl
  | parametric container member ih =>
    rw [texts, ← ih]
    rfl

theorem length_levels (t : TypeSpec) : t.parts.levels.length = t.depth := by
  induction t with
  | simple key => rfl
  | parametric container member ih => rw [parts, depth, List.length_cons, ih]

/-- A level is a nested spec, with its text and its key; the levels from there on are its levels. -/
theorem levels_parts {t : TypeSpec} {i : Nat} {level : Level}
    (h : t.parts.levels[i]? = some level) :
    ∃ u, t.nested[i]? = some u ∧ level.text = u.render ∧ level.container = u.head ∧
      u.parts = ⟨t.parts.levels.drop i, t.parts.leaf⟩ := by
  induction t generalizing i with
  | simple key => cases h
  | parametric container member ih =>
    cases i with
    | zero =>
      cases h
      exact ⟨_, rfl, rfl, rfl, rfl⟩
    | succ i => exact ih h

/-- The innermost of the nested specs is the innermost key. -/
theorem nested_depth (t : TypeSpec) : t.nested[t.depth]? = some (simple t.parts.leaf) := by
  induction t with
  | simple key => rfl
  | parametric container member ih => exact ih

/-- The second text is shorter, in bytes and in characters. -/
def Shorter (a b : String) : Prop := b.utf8ByteSize < a.utf8ByteSize ∧ b.length < a.length

/-- A member is a shorter text than the composition around it. -/
theorem render_shorter (container : String) (member : TypeSpec) :
    Shorter (parametric container member).render member.render := by
  have hopen : "<".utf8ByteSize = 1 := rfl
  have hclose : ">".utf8ByteSize = 1 := rfl
  constructor
  · simp only [render, String.utf8ByteSize_append, hopen, hclose]
    omega
  · simp only [render, String.length_append]
    show member.render.length < container.length + 1 + member.render.length + 1
    omega

/-- Each of the nested texts is shorter than all those around it. -/
theorem texts_decrease (t : TypeSpec) : t.texts.Pairwise Shorter := by
  induction t with
  | simple key => exact List.pairwise_singleton _ _
  | parametric container member ih =>
    refine List.pairwise_cons.2 ⟨?_, ih⟩
    intro s hs
    have hmember := render_shorter container member
    -- the first of the texts of the members is their own, and the others are shorter still
    cases member with
    | simple key =>
      cases List.mem_singleton.1 hs
      exact hmember
    | parametric container' member' =>
      rcases List.mem_cons.1 hs with rfl | hs
      · exact hmember
      · have hinner := (List.pairwise_cons.1 ih).1 s hs
        exact ⟨Nat.lt_trans hinner.1 hmember.1, Nat.lt_trans hinner.2 hmember.2⟩

theorem nodup_of_shorter {texts : List String} (h : texts.Pairwise Shorter) : texts.Nodup := by
  refine h.imp ?_
  rintro a b hab rfl
  exact Nat.lt_irrefl _ hab.1

/-! ## Main result -/

/-- **Taking a text apart agrees with its tree.**  Whatever the text, no slice that is taken on the
    way is out of range or within a character.  If the text is taken apart, it has a tree, whose
    nested specs are the levels and the innermost key, with their texts and keys; the text of a level
    is taken apart into the levels from there on, and the innermost key into no level; and each of
    the texts is shorter than those before, so they are all distinct. -/
theorem split_agrees_with_tree (s : String) :
    splitBySlices maxDepth s = some (splitWithin maxDepth s.toList) ∧
    ∀ p, split s = .ok p → ∃ t, parse s = .ok t ∧ p.levels.length = t.depth ∧
      (∀ i level, p.levels[i]? = some level → ∃ u, t.nested[i]? = some u ∧
        level.text = u.render ∧ level.container = u.head ∧
        split level.text = .ok ⟨p.levels.drop i, p.leaf⟩) ∧
      t.nested[t.depth]? = some (simple p.leaf) ∧ split p.leaf = .ok ⟨[], p.leaf⟩ ∧
      p.texts.Nodup ∧ p.texts.Pairwise Shorter := by
  refine ⟨splitBySlices_eq maxDepth s, ?_⟩
  intro p hsplit
  obtain ⟨t, hwf, hrender, rfl⟩ := split_eq_ok_iff.1 hsplit
  refine ⟨t, parse_eq_ok_iff.2 ⟨hwf, hrender⟩, length_levels t, ?_, nested_depth t, ?_, ?_, ?_⟩
  · intro i level hlevel
    obtain ⟨u, hu, htext, hhead, hparts⟩ := levels_parts hlevel
    refine ⟨u, hu, htext, hhead, ?_⟩
    rw [htext, split_render (hwf.nested u (List.mem_of_getElem? hu)), hparts]
  · exact split_render (hwf.nested _ (List.mem_of_getElem? (nested_depth t)))
  · rw [parts_texts]
    exact nodup_of_shorter t.texts_decrease
  · rw [parts_texts]
    exact t.texts_decrease

/-- Two levels whose keys are not all of single bytes. -/
theorem split_agrees_with_tree_at_accents :
    split "clé<été<ü>>" = .ok ⟨[⟨"clé", "clé<été<ü>>"⟩, ⟨"été", "été<ü>"⟩], "ü"⟩ ∧
      split "été<ü>" = .ok ⟨[⟨"été", "été<ü>"⟩], "ü"⟩ ∧ split "ü" = .ok ⟨[], "ü"⟩ := by
  have hsplit : split "clé<été<ü>>" = .ok ⟨[⟨"clé", "clé<été<ü>>"⟩, ⟨"été", "été<ü>"⟩], "ü"⟩ := rfl
  obtain ⟨-, htree⟩ := split_agrees_with_tree "clé<été<ü>>"
  obtain ⟨t, -, -, hlevels, -, hleaf, -, -⟩ := htree _ hsplit
  obtain ⟨u, -, -, -, hlevel⟩ := hlevels 1 ⟨"été", "été<ü>"⟩ rfl
  exact ⟨hsplit, hlevel, hleaf⟩

end TypeSpec

end ValueTypes
