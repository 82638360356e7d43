/-
  The keys of a spec, read off its text.

  Cut at every angle bracket, a text falls into pieces (`TypeSpec.pieces`).  The cut does not look
  at how the brackets match; a piece is what stands in the text between two brackets, or between a
  bracket and an end, and has no bracket in it (`mem_pieces_iff`).

  Whether a spec mentions a name is a walk over its tree.  The tree of a text and the pieces of the
  text hold the same names: the pieces of a rendering are the keys of the tree, the outermost first,
  and after them an empty piece behind each bracket that closes a level (`pieces_render`, by
  induction on the tree).  No key is empty, so the walk finds a name exactly if it is a nonempty
  piece of the text (`mentions_iff_mem_pieces`).  It overlooks no name that the text uses and takes
  no part of a key for a key, so invalidation can be told by the texts of the entries alone
  (`Cache.invalidate_drops_pieces`).
-/
import ValueTypes.Proofs.Lifetime

namespace ValueTypes

/-! ## Lists that are cut -/

section Cutting

variable {α : Type} {p : α → Bool} {cs piece before after : List α}

/-- What lies before and after a piece meets it with an element at which the list is cut, or is
    empty. -/
def Borders (p : α → Bool) (before after : List α) : Prop :=
  (∀ c ∈ before.getLast?, p c = true) ∧ ∀ c ∈ after.head?, p c = true

/-- A piece has no element at which the list is cut, and lies between two such or the ends. -/
theorem exists_of_mem_splitOnP (h : piece ∈ cs.splitOnP p) :
    (∀ c ∈ piece, p c = false) ∧
      ∃ before after, cs = before ++ piece ++ after ∧ Borders p before after := by
  -- the induction goes from one cut to the next, so it is on the length of what is left
  induction hlength : cs.length using Nat.strongRecOn generalizing cs with
  | ind length ih =>
    cases hfind : cs.find? p with
    | none =>
      have hfree : ∀ c ∈ cs, p c = false := by simpa using List.find?_eq_none.1 hfind
      rw [List.splitOnP_eq_singleton hfree, List.mem_singleton] at h
      subst h
      exact ⟨hfree, [], [], by simp, by simp, by simp⟩
    | some sep =>
      obtain ⟨hsep, first, rest, rfl, hfirst⟩ := List.find?_eq_some_iff_append.1 hfind
      have hfree : ∀ c ∈ first, p c = false := by simpa using hfirst
      rw [List.splitOnP_append_cons_of_forall_mem hfree sep hsep, List.mem_cons] at h
      rcases h with rfl | h
      · exact ⟨hfree, [], sep :: rest, by simp, by simp, by simpa using hsep⟩
      · have hshorter : rest.length < length := by
          rw [← hlength, List.length_append, List.length_cons]
          omega
        obtain ⟨hpiece, before, after, rfl, hbefore, hafter⟩ := ih _ hshorter h rfl
        refine ⟨hpiece, first ++ sep :: before, after, by simp, ?_, hafter⟩
        intro c hc
        cases before with
        | nil =>
          rw [List.getLast?_concat] at hc
          cases hc
          exact hsep
        | cons x before => exact hbefore c (by simpa [List.getLast?_append] using hc)

/-- A run of plain characters between borders is one of the pieces. -/
theorem mem_splitOnP_of_borders (hpiece : ∀ c ∈ piece, p c = false) (h : Borders p before after) :
    piece ∈ (before ++ piece ++ after).splitOnP p := by
  have hfirst : piece ∈ (piece ++ after).splitOnP p := by
    cases after with
    | nil => simp [List.splitOnP_eq_singleton hpiece]
    | cons sep after =>
      rw [List.splitOnP_append_cons_of_forall_mem hpiece sep (h.2 sep rfl)]
      exact List.mem_cons_self
  rcases List.eq_nil_or_concat before with rfl | ⟨before, sep, rfl⟩
  · exact hfirst
  · have hsep : p sep = true := h.1 sep (by simp)
    have hlist : before.concat sep ++ piece ++ after = before ++ sep :: (piece ++ after) := by simp
    rw [hlist, List.splitOnP_append_cons _ _ hsep]
    exact List.mem_append_right _ hfirst

/-- The pieces of a list that is cut wherever `p` holds. -/
theorem mem_splitOnP_iff :
    piece ∈ cs.splitOnP p ↔ (∀ c ∈ piece, p c = false) ∧
      ∃ before after, cs = before ++ piece ++ after ∧ Borders p before after := by
  constructor
  · exact exists_of_mem_splitOnP
  · rintro ⟨hpiece, before, after, rfl, h⟩
    exact mem_splitOnP_of_borders hpiece h

end Cutting

namespace TypeSpec

/-! ## Pieces of a text -/

def isBracket (c : Char) : Bool := c == '<' || c == '>'

/-- The pieces of a text that is cut at every bracket. -/
def pieces (s : String) : List String := (s.toList.splitOnP isBracket).map String.ofList

/-- Somewhere in the text nothing but brackets or the ends of the text is next to the name. -/
def StandsAlone (name text : String) : Prop :=
  ∃ before after, text.toList = before ++ name.toList ++ after ∧ Borders isBracket before after

theorem isBracket_free_iff {s : String} :
    (∀ c ∈ s.toList, isBracket c = false) ↔ '<' ∉ s.toList ∧ '>' ∉ s.toList := by
  constructor
  · intro h
    exact ⟨fun hc => absurd (h _ hc) (by decide), fun hc => absurd (h _ hc) (by decide)⟩
  · rintro ⟨hopen, hclose⟩ c hc
    have hlt : c ≠ '<' := fun h => hopen (h ▸ hc)
    have hgt : c ≠ '>' := fun h => hclose (h ▸ hc)
    simp [isBracket, hlt, hgt]

/-- The pieces of a text are the texts without brackets that stand alone in it. -/
theorem mem_pieces_iff {name text : String} :
    name ∈ pieces text ↔ ('<' ∉ name.toList ∧ '>' ∉ name.toList) ∧ StandsAlone name text := by
  have hmem : name ∈ pieces text ↔ name.toList ∈ text.toList.splitOnP isBracket := by
    rw [pieces, List.mem_map]
    constructor
    · rintro ⟨piece, hpiece, rfl⟩
      rwa [String.toList_ofList]
    · intro h
      exact ⟨name.toList, h, String.ofList_toList⟩
  rw [hmem, mem_splitOnP_iff, isBracket_free_iff]
  rfl

/-- A key is a piece of its own. -/
theorem pieces_of_isKey {key : String} (h : IsKey key) : pieces key = [key] := by
  rw [pieces, List.splitOnP_eq_singleton (isBracket_free_iff.2 h.2), List.map_singleton,
    String.ofList_toList]

/-- The pieces before and after a bracket. -/
theorem pieces_append (before after : String) (bracket : Char) (h : isBracket bracket = true) :
    pieces (before ++ String.singleton bracket ++ after) = pieces before ++ pieces after := by
  have htext : (before ++ String.singleton bracket ++ after).toList
      = before.toList ++ bracket :: after.toList := by simp
  rw [pieces, htext, List.splitOnP_append_cons _ _ h, List.map_append]
  rfl

theorem pieces_open (before after : String) :
    pieces (before ++ "<" ++ after) = pieces before ++ pieces after :=
  pieces_append before after '<' rfl

theorem pieces_close (before : String) : pieces (before ++ ">") = pieces before ++ [""] := by
  have h := pieces_append before "" '>' rfl
  rwa [String.append_empty] at h

/-! ## Pieces of a rendering -/

theorem Keyed.isKey_of_mem_keys {spec : TypeSpec} (h : spec.Keyed) {name : String}
    (hname : name ∈ spec.keys) : IsKey name := by
  induction spec with
  | simple key =>
    cases List.mem_singleton.1 hname
    exact h
  | parametric container member ih =>
    rcases List.mem_cons.1 hname with rfl | hname
    · exact h.1
    · exact ih h.2 hname

/-- **The pieces of a rendering** are the keys of the tree, in their order, and then an empty piece
    for each level. -/
theorem pieces_render {spec : TypeSpec} (h : spec.Keyed) :
    pieces spec.render = spec.keys ++ List.replicate spec.depth "" := by
  induction spec with
  | simple key => exact pieces_of_isKey h
  | parametric container member ih =>
    calc pieces (container ++ "<" ++ member.render ++ ">")
        = pieces (container ++ "<" ++ member.render) ++ [""] := pieces_close _
      _ = pieces container ++ pieces member.render ++ [""] := by rw [pieces_open]
      _ = [container] ++ (member.keys ++ List.replicate member.depth "") ++ [""] := by
          rw [pieces_of_isKey h.1, ih h.2]
      _ = container :: member.keys ++ List.replicate (member.depth + 1) "" := by
          rw [List.replicate_succ']
          simp

example : pieces "array<optional.string>" = ["array", "optional.string", ""] := by decide

/-- **What a spec mentions** are the nonempty pieces of its text. -/
theorem mentions_iff_mem_pieces {key name : String} {spec : TypeSpec}
    (hparse : parse key = .ok spec) :
    spec.mentions name = true ↔ name ≠ "" ∧ name ∈ pieces key := by
  obtain ⟨hwf, rfl⟩ := parse_eq_ok_iff.1 hparse
  rw [mentions_iff, pieces_render hwf.keyed, List.mem_append]
  constructor
  · intro h
    exact ⟨(hwf.keyed.isKey_of_mem_keys h).1, .inl h⟩
  · rintro ⟨hne, h | h⟩
    · exact h
    · exact absurd (List.eq_of_mem_replicate h) hne

/-- A spec mentions a name that is not empty when the name is one of its pieces. -/
theorem mentions_iff_of_ne_empty {key name : String} {spec : TypeSpec} (hne : name ≠ "")
    (hparse : parse key = .ok spec) : spec.mentions name = true ↔ name ∈ pieces key := by
  rw [mentions_iff_mem_pieces hparse, and_iff_right hne]

end TypeSpec

namespace Cache

variable {σ : Type}

open TypeSpec

/-! ## Invalidation by texts -/

/-- Only the name itself takes part in an entry under a text that is no spec. -/
theorem involves_iff_of_malformed {key name : String} {e : TypeError} (h : parse key = .error e) :
    Involves key name ↔ name = key := by
  constructor
  · intro hinvolves
    cases hinvolves with
    | spec hspec _ =>
      rw [h] at hspec
      cases hspec
    | text _ hname => exact hname
  · exact .text h

/-- Of the texts that are no specs, invalidation drops the name itself only. -/
theorem get?_invalidate_of_malformed (c : Cache σ) {key name : String} {e : TypeError}
    (h : parse key = .error e) :
    (c.invalidate name).get? key = if name = key then none else c.get? key := by
  by_cases hname : name = key
  · rw [if_pos hname, get?_invalidate_of_involves c ((involves_iff_of_malformed h).2 hname)]
  · rw [if_neg hname,
      get?_invalidate_of_not_involves c (mt (involves_iff_of_malformed h).1 hname)]

/-- Of the specs, invalidation drops those that have the name among their pieces. -/
theorem get?_invalidate_of_parse (c : Cache σ) {key name : String} {spec : TypeSpec}
    (hne : name ≠ "") (h : parse key = .ok spec) :
    (c.invalidate name).get? key = if name ∈ pieces key then none else c.get? key := by
  have hmentions := mentions_iff_of_ne_empty hne h
  obtain ⟨hwf, rfl⟩ := parse_eq_ok_iff.1 h
  rw [get?_invalidate_render c hwf]
  simp only [hmentions]

/-! ## Main result -/

/-- **Invalidation goes by the pieces of the texts.**  A spec mentions a name exactly if it is a
    piece of its text; so it mentions none that has a bracket, and none that stands in the text only
    as a part of larger pieces.  Invalidation drops the entries whose key has the name as a piece,
    and of the keys that are no specs only the name itself; every other entry stays the same
    instance, and none is added. -/
theorem invalidate_drops_pieces {name : String} (hne : name ≠ "") :
    (∀ key spec, parse key = .ok spec →
      (spec.mentions name = true ↔ name ∈ pieces key) ∧
      ('<' ∈ name.toList ∨ '>' ∈ name.toList → spec.mentions name = false) ∧
      (¬StandsAlone name key → spec.mentions name = false)) ∧
    ∀ (c : Cache σ) (key : String),
      (∀ spec, parse key = .ok spec →
        (c.invalidate name).get? key = if name ∈ pieces key then none else c.get? key) ∧
      (∀ e, parse key = .error e →
        (c.invalidate name).get? key = if name = key then none else c.get? key) := by
  constructor
  · intro key spec hparse
    have hmentions := mentions_iff_of_ne_empty hne hparse
    refine ⟨hmentions, ?_, ?_⟩
    · intro hbracket
      rw [← Bool.not_eq_true, hmentions, mem_pieces_iff]
      rintro ⟨⟨hopen, hclose⟩, -⟩
      exact hbracket.elim hopen hclose
    · intro hpart
      rw [← Bool.not_eq_true, hmentions, mem_pieces_iff]
      rintro ⟨-, halone⟩
      exact hpart halone
  · intro c key
    constructor
    · intro spec hparse
      exact get?_invalidate_of_parse c hne hparse
    · intro e hparse
      exact get?_invalidate_of_malformed c hparse

/-- The name is a key of one spec, a part of a key of another, and a piece of a text that is no
    spec; only the first of the entries goes. -/
theorem invalidate_drops_pieces_at_suffix :
    let t : Ty Empty := .nominal 0 .any
    let u : Ty Empty := .nominal 1 .any
    let v : Ty Empty := .nominal 2 .any
    let c : Cache Empty :=
      ((Dict.empty.insert "array<string>" t).insert "array<optional.string>" u).insert "string>" v
    (c.invalidate "string").get? "array<string>" = none ∧
      (c.invalidate "string").get? "array<optional.string>" = some u ∧
      (c.invalidate "string").get? "string>" = some v ∧
      mentions "string" (.parametric "array" (.simple "optional.string")) = false ∧
      mentions "array<string" (.parametric "array" (.simple "string")) = false := by
  intro t u v c
  have hdirect : parse "array<string>" = .ok (.parametric "array" (.simple "string")) := rfl
  have hsuffix : parse "array<optional.string>"
      = .ok (.parametric "array" (.simple "optional.string")) := rfl
  have hstray : parse "string>"
      = .error (.malformedSpec "string>" Fault.strayClose.reason) := rfl
  have hpart : ¬StandsAlone "string" "array<optional.string>" := by
    intro h
    exact absurd (mem_pieces_iff.2 ⟨by decide, h⟩) (by decide)
  have hname : "string" ≠ "" := by decide
  have hopen : "array<string" ≠ "" := by decide
  obtain ⟨hstring, hdrops⟩ := invalidate_drops_pieces (σ := Empty) hname
  obtain ⟨hbracket, -⟩ := invalidate_drops_pieces (σ := Empty) hopen
  refine ⟨?_, ?_, ?_, ?_, ?_⟩
  · rw [(hdrops c _).1 _ hdirect, if_pos (by decide)]
  · rw [(hdrops c _).1 _ hsuffix, if_neg (by decide)]
    rfl
  · rw [(hdrops c _).2 _ hstray, if_neg (by decide)]
    rfl
  · exact (hstring _ _ hsuffix).2.2 hpart
  · exact (hbracket _ _ hdirect).2.1 (by decide)

end Cache

end ValueTypes
