/-
  Which names have a key that may stand in a spec.

  `identifier` takes every name, and a spec takes every text without angle brackets as a key, but
  not the empty one.  A name is cut at its first `<`, so a key has none; it has a `>` exactly if the
  part in front of the cut has one, because a key is made of the characters of that part in their
  order, in lower case, with underscores between them and dots for separators (`mem_identifier_iff`);
  and it is empty exactly if the part is made of separators (`identifier_eq_empty_iff`).

  Each step of the derivation is followed by what it does to the set of characters.  Lowercasing
  maps no letter to a character in front of the capitals, so it keeps those (`Text.mem_lower_iff`);
  the passes that part words only insert underscores (`Identifier.Parted`); and cutting only takes
  the separators away.
-/
import ValueTypes.Identifier
import ValueTypes.Proofs.SpecText

namespace ValueTypes

/-! ## Lower case -/

namespace Text

/-- A character in front of the capitals, where there are no letters. -/
structure BelowLetters (c : Char) : Prop where
  pos : 0 < c.toNat
  lt : c.toNat < 0x41

/-- The capitals of a run and their lower cases are letters. -/
theorem caseRuns_letters : ∀ r ∈ caseRuns, 0x41 ≤ r.first ∧ (0x41 : Int) ≤ r.first + r.shift := by
  decide +kernel

theorem not_belowLetters_ofNat {n : Nat} (h : 0x41 ≤ n) : ¬BelowLetters (Char.ofNat n) := by
  rintro ⟨hpos, hlt⟩
  by_cases hvalid : n.isValidChar
  · have htoNat : (Char.ofNat n).toNat = n := congrArg Char.toNat (dif_pos hvalid)
    omega
  · -- a number that is no character stands for the first of all
    have hzero : (Char.ofNat n).toNat = 0 := congrArg Char.toNat (dif_neg hvalid)
    omega

/-- Lowercasing makes no character below the letters, and loses none. -/
theorem mem_lowerChar_iff {x : Char} (hx : BelowLetters x) (c : Char) :
    x ∈ lowerChar c ↔ x = c := by
  unfold lowerChar
  split
  · rename_i hc
    subst hc
    constructor
    · intro h
      simp only [List.mem_cons, List.not_mem_nil, or_false] at h
      rcases h with rfl | rfl
      · exact absurd hx.lt (by decide)
      · exact absurd hx.lt (by decide)
    · rintro rfl
      exact absurd hx.lt (by decide)
  · split
    · rename_i r hfind
      obtain ⟨hfirst, himage⟩ := caseRuns_letters r (List.mem_of_find?_eq_some hfind)
      have hcovers := List.find?_some hfind
      simp only [CaseRun.covers, Bool.and_eq_true, decide_eq_true_eq] at hcovers
      constructor
      · intro h
        obtain rfl := List.mem_singleton.1 h
        exact absurd hx (not_belowLetters_ofNat (by omega))
      · rintro rfl
        have hlt := hx.lt
        omega
    · exact List.mem_singleton

theorem lowerChar_ne_nil (c : Char) : lowerChar c ≠ [] := by
  unfold lowerChar
  split
  · exact List.cons_ne_nil _ _
  · split <;> exact List.cons_ne_nil _ _

theorem mem_lowerAfter_iff {x : Char} (hx : BelowLetters x) (before cs : List Char) :
    x ∈ lowerAfter before cs ↔ x ∈ cs := by
  induction cs generalizing before with
  | nil => exact Iff.rfl
  | cons c cs ih =>
    rw [lowerAfter, List.mem_append, ih, List.mem_cons]
    refine or_congr_left ?_
    split
    · rename_i hc
      subst hc
      -- both forms of the small sigma are letters, as the capital is
      constructor
      · intro h
        split at h
        · obtain rfl := List.mem_singleton.1 h
          exact absurd hx.lt (by decide)
        · obtain rfl := List.mem_singleton.1 h
          exact absurd hx.lt (by decide)
      · rintro rfl
        exact absurd hx.lt (by decide)
    · exact mem_lowerChar_iff hx c

/-- **Lowercasing keeps the characters below the letters**, and makes no others. -/
theorem mem_lower_iff {x : Char} (hx : BelowLetters x) (cs : List Char) : x ∈ lower cs ↔ x ∈ cs :=
  mem_lowerAfter_iff hx [] cs

theorem lower_eq_nil_iff {cs : List Char} : lower cs = [] ↔ cs = [] := by
  constructor
  · intro h
    cases cs with
    | nil => rfl
    | cons c cs =>
      obtain ⟨hc, -⟩ := List.append_eq_nil_iff.1 h
      split at hc
      · split at hc <;> cases hc
      · exact absurd hc (lowerChar_ne_nil c)
  · rintro rfl
    rfl

end Text

namespace Identifier

/-! ## Words -/

/-- `ds` is `cs` with some underscores put in. -/
inductive Parted : List Char → List Char → Prop where
  | nil : Parted [] []
  | keep {cs ds : List Char} (c : Char) (h : Parted cs ds) : Parted (c :: cs) (c :: ds)
  | part {cs ds : List Char} (h : Parted cs ds) : Parted cs ('_' :: ds)

theorem Parted.refl (cs : List Char) : Parted cs cs := by
  induction cs with
  | nil => exact .nil
  | cons c cs ih => exact .keep c ih

theorem Parted.append {as bs cs ds : List Char} (hab : Parted as bs) (hcd : Parted cs ds) :
    Parted (as ++ cs) (bs ++ ds) := by
  induction hab with
  | nil => exact hcd
  | keep c _ ih => exact .keep c ih
  | part _ ih => exact .part ih

/-- Parting words changes underscores only. -/
theorem Parted.mem_iff {cs ds : List Char} (h : Parted cs ds) {x : Char} (hx : x ≠ '_') :
    x ∈ ds ↔ x ∈ cs := by
  induction h with
  | nil => exact Iff.rfl
  | keep c _ ih => rw [List.mem_cons, List.mem_cons, ih]
  | part _ ih => rw [List.mem_cons, ih, or_iff_right hx]

theorem Parted.eq_nil {cs : List Char} (h : Parted cs []) : cs = [] := by
  cases h
  rfl

theorem partRun_parted (run : List Char) (last : Char) (rest : List Char) :
    Parted (run ++ [last]) (partRun run last rest) := by
  have hlast : Parted [last] ['_', last] := .part (.refl [last])
  unfold partRun
  split
  · split
    · exact (Parted.refl run).append hlast
    · exact .refl _
  · exact .refl _

theorem partAcronyms_parted (cs : List Char) : Parted cs (partAcronyms cs) := by
  induction cs using partAcronyms.induct with
  | case1 =>
    rw [partAcronyms]
    exact .nil
  | case2 c cs hc rest ih =>
    have hrun := partRun_parted ((c :: cs.takeWhile inAcronym).dropLast)
      ((c :: cs.takeWhile inAcronym).getLast (List.cons_ne_nil _ _)) rest
    rw [List.dropLast_concat_getLast] at hrun
    have hparted := hrun.append ih
    rw [List.cons_append, List.takeWhile_append_dropWhile] at hparted
    rw [partAcronyms, if_pos hc]
    exact hparted
  | case3 c cs hc ih =>
    rw [partAcronyms, if_neg hc]
    exact .keep c ih

theorem partCapitals_parted (cs : List Char) : Parted cs (partCapitals cs) := by
  induction cs using partCapitals.induct with
  | case1 x y cs h ih =>
    rw [partCapitals, if_pos h]
    exact .keep x (.part (.keep y ih))
  | case2 x y cs h ih =>
    rw [partCapitals, if_neg h]
    exact .keep x ih
  | case3 cs h =>
    rw [partCapitals]
    · exact .refl cs
    · exact h

/-- Hyphens apart, underscoring keeps the characters below the letters. -/
theorem mem_underscoreChars_iff {x : Char} (hx : Text.BelowLetters x) (hne : x ≠ '-')
    (cs : List Char) : x ∈ underscoreChars cs ↔ x ∈ cs := by
  have hunderscore : x ≠ '_' := by
    rintro rfl
    exact absurd hx.lt (by decide)
  rw [underscoreChars, Text.mem_lower_iff hx, List.mem_map,
    ← (partAcronyms_parted cs).mem_iff hunderscore,
    ← (partCapitals_parted _).mem_iff hunderscore]
  constructor
  · rintro ⟨c, hc, hxc⟩
    split at hxc
    · exact absurd hxc.symm hunderscore
    · rwa [← hxc]
  · intro h
    exact ⟨x, h, if_neg hne⟩

theorem underscoreChars_eq_nil_iff {cs : List Char} : underscoreChars cs = [] ↔ cs = [] := by
  rw [underscoreChars, Text.lower_eq_nil_iff, List.map_eq_nil_iff]
  constructor
  · intro h
    have hcapitals := partCapitals_parted (partAcronyms cs)
    rw [h] at hcapitals
    have hacronyms := partAcronyms_parted cs
    rw [hcapitals.eq_nil] at hacronyms
    exact hacronyms.eq_nil
  · rintro rfl
    rw [partAcronyms, partCapitals]
    rintro _ _ _ ⟨⟩

/-! ## Segments -/

/-- The part of a name that its key is derived from. -/
def path (name : String) : List Char := name.toList.takeWhile (· ≠ '<')

/-- Whether a path is made of `/` and `::` only. -/
def onlySeparators : List Char → Bool
  | [] => true
  | ':' :: ':' :: cs => onlySeparators cs
  | c :: cs => c == '/' && onlySeparators cs

theorem flatten_extend (c : Char) (ps : List (List Char)) :
    (extend c ps).flatten = c :: ps.flatten := by
  cases ps <;> rfl

/-- Cutting at slashes takes the slashes away. -/
theorem flatten_cutSlashes (cs : List Char) : (cutSlashes cs).flatten = cs.filter (· ≠ '/') := by
  induction cs with
  | nil => rfl
  | cons c cs ih =>
    rw [cutSlashes]
    split
    · rename_i hc
      rw [List.flatten_cons, List.nil_append, ih, List.filter_cons_of_neg (by simpa using hc)]
    · rename_i hc
      rw [flatten_extend, ih, List.filter_cons_of_pos (by simpa using hc)]

/-- Cutting at double colons takes nothing but colons away. -/
theorem mem_flatten_cutColons_iff {x : Char} (hx : x ≠ ':') (cs : List Char) :
    x ∈ (cutColons cs).flatten ↔ x ∈ cs := by
  induction cs using cutColons.induct with
  | case1 => exact Iff.rfl
  | case2 cs ih =>
    rw [cutColons, List.flatten_cons, List.nil_append, ih, List.mem_cons, List.mem_cons,
      or_iff_right hx, or_iff_right hx]
  | case3 c cs h ih =>
    rw [cutColons, flatten_extend, List.mem_cons, ih, List.mem_cons]
    exact h

/-- Nothing but slashes is left between the double colons exactly if there are only separators. -/
theorem flatten_cutColons_slashes_iff (cs : List Char) :
    (∀ c ∈ (cutColons cs).flatten, c = '/') ↔ onlySeparators cs = true := by
  induction cs using cutColons.induct with
  | case1 =>
    rw [onlySeparators]
    exact iff_of_true (by rintro _ ⟨⟩) rfl
  | case2 cs ih =>
    rw [cutColons, onlySeparators, List.flatten_cons, List.nil_append, ih]
  | case3 c cs h ih =>
    rw [cutColons, onlySeparators, flatten_extend, List.forall_mem_cons, ih, Bool.and_eq_true,
      beq_iff_eq]
    · exact h
    · exact h

/-- The segments hold what stands before the first bracket, without the separators. -/
theorem flatten_segments (cs : List Char) :
    (segments cs).flatten
      = ((cutColons (cs.takeWhile (· ≠ '<'))).flatten).filter (· ≠ '/') := by
  rw [segments]
  generalize cutColons (cs.takeWhile (· ≠ '<')) = ps
  have hpieces : (ps.flatMap cutSlashes).flatten = ps.flatten.filter (· ≠ '/') := by
    induction ps with
    | nil => rfl
    | cons p ps ih =>
      rw [List.flatMap_cons, List.flatten_append, ih, flatten_cutSlashes, List.flatten_cons,
        List.filter_append]
  rw [List.flatten_filter_ne_nil, hpieces]

/-- There are no segments when only separators stand before the first bracket. -/
theorem segments_eq_nil_iff (cs : List Char) :
    segments cs = [] ↔ onlySeparators (cs.takeWhile (· ≠ '<')) = true := by
  have hpieces : segments cs = [] ↔ (segments cs).flatten = [] := by
    constructor
    · intro h
      rw [h, List.flatten_nil]
    · intro h
      refine List.eq_nil_iff_forall_not_mem.2 ?_
      intro p hp
      have hne : p ≠ [] := by simpa using (List.mem_filter.1 hp).2
      exact hne (List.flatten_eq_nil_iff.1 h p hp)
  rw [hpieces, flatten_segments, List.filter_eq_nil_iff, ← flatten_cutColons_slashes_iff]
  refine forall₂_congr ?_
  intro c _
  rw [decide_eq_true_eq, ne_eq, Decidable.not_not]

/-! ## Keys -/

theorem mem_intercalate_iff {x : Char} (hx : x ≠ '.') (ps : List (List Char)) :
    x ∈ List.intercalate ['.'] ps ↔ x ∈ ps.flatten := by
  induction ps with
  | nil => exact Iff.rfl
  | cons p ps ih =>
    cases ps with
    | nil => exact Iff.rfl
    | cons q ps =>
      rw [List.intercalate_cons_cons, List.mem_append, ih, List.mem_append, List.mem_singleton,
        or_iff_left hx, ← List.mem_append, ← List.flatten_cons]

/-- Joined pieces are empty only if there are none, given that none of them is. -/
theorem intercalate_eq_nil_iff {ps : List (List Char)} (h : ∀ p ∈ ps, p ≠ []) :
    List.intercalate ['.'] ps = [] ↔ ps = [] := by
  cases ps with
  | nil => exact iff_of_true rfl rfl
  | cons p ps =>
    have hp : p ≠ [] := h p List.mem_cons_self
    refine iff_of_false ?_ (List.cons_ne_nil p ps)
    intro hjoined
    cases ps with
    | nil =>
      have hone : List.intercalate ['.'] [p] = p := by simp
      exact hp (hone.symm.trans hjoined)
    | cons q ps =>
      rw [List.intercalate_cons_cons, List.append_assoc] at hjoined
      exact hp (List.append_eq_nil_iff.1 hjoined).1

end Identifier

open Identifier

/-- **The characters of a key**: below the letters, where no character is put in, replaced or cut
    away, they are those of the path. -/
theorem mem_identifier_iff {x : Char} (hx : Text.BelowLetters x)
    (hne : x ∉ ['-', '.', '/', ':']) (name : String) :
    x ∈ (identifier name).toList ↔ x ∈ path name := by
  simp only [List.mem_cons, List.not_mem_nil, or_false, not_or] at hne
  obtain ⟨hdash, hdot, hslash, hcolon⟩ := hne
  have hwords : x ∈ ((segments name.toList).map underscoreChars).flatten ↔
      x ∈ (segments name.toList).flatten := by
    rw [← List.flatMap_def, List.mem_flatMap, List.mem_flatten]
    refine exists_congr fun p => and_congr_right fun _ => ?_
    exact mem_underscoreChars_iff hx hdash p
  rw [identifier, String.toList_ofList, mem_intercalate_iff hdot, hwords, flatten_segments,
    List.mem_filter, decide_eq_true_eq, and_iff_left hslash, mem_flatten_cutColons_iff hcolon, path]

/-- **The empty key** is the key of the paths that are made of separators. -/
theorem identifier_eq_empty_iff (name : String) :
    identifier name = "" ↔ onlySeparators (path name) = true := by
  have hwords : ∀ w ∈ (segments name.toList).map underscoreChars, w ≠ [] := by
    intro w hw
    obtain ⟨p, hp, rfl⟩ := List.mem_map.1 hw
    have hne : p ≠ [] := by simpa using (List.mem_filter.1 hp).2
    exact mt underscoreChars_eq_nil_iff.1 hne
  rw [path, ← segments_eq_nil_iff, ← List.map_eq_nil_iff (f := underscoreChars),
    ← intercalate_eq_nil_iff hwords, identifier, ← String.toList_inj, String.toList_ofList]
  rfl

/-- A key has no `<`, because the name is cut there. -/
theorem open_not_mem_identifier (name : String) : '<' ∉ (identifier name).toList := by
  rw [mem_identifier_iff ⟨by decide, by decide⟩ (by decide)]
  intro h
  simpa using List.all_eq_true.1 List.all_takeWhile _ h

/-- A name whose key may stand in a spec: its path is not made of separators, and has no `>`. -/
def Nameable (name : String) : Prop := onlySeparators (path name) = false ∧ '>' ∉ path name

instance (name : String) : Decidable (Nameable name) := inferInstanceAs (Decidable (_ ∧ _))

/-- **The key of a name may stand in a spec** exactly if the name is nameable. -/
theorem isKey_identifier_iff (name : String) :
    TypeSpec.IsKey (identifier name) ↔ Nameable name := by
  have hempty : identifier name ≠ "" ↔ onlySeparators (path name) = false := by
    rw [ne_eq, identifier_eq_empty_iff, Bool.not_eq_true]
  have hclose : '>' ∈ (identifier name).toList ↔ '>' ∈ path name :=
    mem_identifier_iff ⟨by decide, by decide⟩ (by decide) name
  rw [TypeSpec.IsKey, Nameable, hempty, hclose]
  exact and_congr_right' (and_iff_right (open_not_mem_identifier name))

example : Nameable "my_app::money::Money<u64>" ∧ ¬Nameable "::<u64>" ∧ ¬Nameable "A>B" := by
  decide

end ValueTypes
