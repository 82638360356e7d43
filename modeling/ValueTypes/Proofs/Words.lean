/-
  Where a segment is cut into words: two passes of replacements come to one local rule.

  Each pass replaces the matches of a pattern of two groups by the groups with an underscore between
  them.  The first looks for a run of capitals and digits in front of a capital with a small letter,
  the second for a small letter or digit in front of a capital.  A pass goes from left to right and
  takes up again behind a match (`Replaced`), so a match might use up characters that another needs,
  and the second pass reads what the first one wrote.

  None of this shows.  A pass only ever decides, character by character, whether an underscore comes
  after it, and it looks at the next one or two characters to do so (`partAfter`, `replaced_iff`).
  The two decisions exclude one another where they could meet, since an underscore is no capital and
  ends no word, so together they are one decision (`partAfter_partAfter`): a word ends before a
  capital that comes after a small letter or a digit, or after a capital and before a small letter.

  The library goes through each run of capitals and digits in one go; `partAcronyms_eq` is the lemma
  that takes a run apart again.
-/
import ValueTypes.Identifier

namespace ValueTypes.Identifier

/-! ## Character classes -/

theorem isCapital_iff {c : Char} : isCapital c = true ↔ 0x41 ≤ c.toNat ∧ c.toNat ≤ 0x5A := by
  rw [isCapital, Bool.and_eq_true, decide_eq_true_eq, decide_eq_true_eq]
  exact Iff.rfl

theorem isSmall_iff {c : Char} : isSmall c = true ↔ 0x61 ≤ c.toNat ∧ c.toNat ≤ 0x7A := by
  rw [isSmall, Bool.and_eq_true, decide_eq_true_eq, decide_eq_true_eq]
  exact Iff.rfl

/-- The ASCII letters and what stands between them are no digits of any script. -/
theorem not_isDecimalDigit_of_between {c : Char} (hlow : 0x41 ≤ c.toNat) (hhigh : c.toNat ≤ 0x7A) :
    Text.isDecimalDigit c = false :=
  Text.CharSet.not_contains_of_between (by decide) hlow hhigh

theorem not_isCapital_of_isSmall {c : Char} (h : isSmall c = true) : isCapital c = false := by
  refine Bool.eq_false_iff.2 ?_
  intro hc
  have hcapital := isCapital_iff.1 hc
  have hsmall := isSmall_iff.1 h
  omega

theorem not_isSmall_of_inAcronym {c : Char} (h : inAcronym c = true) : isSmall c = false := by
  refine Bool.eq_false_iff.2 ?_
  intro hc
  have hsmall := isSmall_iff.1 hc
  rw [inAcronym, not_isCapital_of_isSmall hc,
    not_isDecimalDigit_of_between (by omega) (by omega)] at h
  cases h

theorem not_isCapital_of_not_inAcronym {c : Char} (h : inAcronym c = false) :
    isCapital c = false := (Bool.or_eq_false_iff.1 h).1

/-- A capital is neither a small letter nor a digit. -/
theorem not_isSmall_or_isDecimalDigit_of_isCapital {c : Char} (h : isCapital c = true) :
    (isSmall c || Text.isDecimalDigit c) = false := by
  have hcapital := isCapital_iff.1 h
  have hacronym : inAcronym c = true := by rw [inAcronym, h, Bool.true_or]
  rw [not_isSmall_of_inAcronym hacronym, not_isDecimalDigit_of_between (by omega) (by omega)]
  rfl

/-! ## Passes as decisions -/

/-- The text with an underscore after each character where a word ends: `ends x cs` decides it of the
    character `x` in front of `cs`. -/
def partAfter (ends : Char → List Char → Bool) : List Char → List Char
  | [] => []
  | x :: cs => if ends x cs then x :: '_' :: partAfter ends cs else x :: partAfter ends cs

/-- The decision of the first pass: before a capital with a small letter, after a capital or a
    digit. -/
def endsAcronym (x : Char) : List Char → Bool
  | y :: z :: _ => inAcronym x && isCapital y && isSmall z
  | _ => false

/-- The decision of the second pass: before a capital, after a small letter or a digit. -/
def endsBeforeCapital (x : Char) : List Char → Bool
  | y :: _ => (isSmall x || Text.isDecimalDigit x) && isCapital y
  | [] => false

/-- The one local rule: a word ends before a capital, after a small letter, after a digit, or after a
    capital if a small letter follows the next one. -/
def endsWord (x : Char) : List Char → Bool
  | y :: cs =>
    isCapital y && (isSmall x || Text.isDecimalDigit x || isCapital x && cs.head?.any isSmall)
  | [] => false

section PartAfter

variable {ends : Char → List Char → Bool} {x : Char} {cs : List Char}

theorem partAfter_of_ends (h : ends x cs = true) :
    partAfter ends (x :: cs) = x :: '_' :: partAfter ends cs := if_pos h

theorem partAfter_of_not_ends (h : ends x cs = false) :
    partAfter ends (x :: cs) = x :: partAfter ends cs := by
  rw [partAfter, h]
  rfl

theorem partAfter_cons_eq (ends : Char → List Char → Bool) (x : Char) (cs : List Char) :
    ∃ ds, partAfter ends (x :: cs) = x :: ds := by
  cases h : ends x cs with
  | true => exact ⟨_, partAfter_of_ends h⟩
  | false => exact ⟨_, partAfter_of_not_ends h⟩

end PartAfter

theorem endsBeforeCapital_of_isCapital {x : Char} (h : isCapital x = true) (cs : List Char) :
    endsBeforeCapital x cs = false := by
  cases cs with
  | nil => rfl
  | cons y cs => rw [endsBeforeCapital, not_isSmall_or_isDecimalDigit_of_isCapital h, Bool.false_and]

/-- The first pass makes no cut after a character that is in no run. -/
theorem not_endsAcronym_outside {x : Char} (h : inAcronym x = false) (cs : List Char) :
    endsAcronym x cs = false := by
  match cs with
  | [] => rfl
  | [_] => rfl
  | y :: z :: cs => rw [endsAcronym, h, Bool.false_and, Bool.false_and]

/-- The first pass makes no cut in front of two characters of a run. -/
theorem not_endsAcronym_of_inAcronym (x y : Char) {cs : List Char}
    (h : ∀ z, cs.head? = some z → inAcronym z = true) : endsAcronym x (y :: cs) = false := by
  cases cs with
  | nil => rfl
  | cons z cs => rw [endsAcronym, not_isSmall_of_inAcronym (h z rfl), Bool.and_false]

/-- The first pass makes no cut in front of the end of a run. -/
theorem not_endsAcronym_of_not_inAcronym (x : Char) {cs : List Char}
    (h : ∀ y, cs.head? = some y → inAcronym y = false) : endsAcronym x cs = false := by
  match cs, h with
  | [], _ => rfl
  | [_], _ => rfl
  | y :: z :: cs, h =>
    rw [endsAcronym, not_isCapital_of_not_inAcronym (h y rfl), Bool.and_false, Bool.false_and]

/-- The second replacement is parting after what ends before a capital. -/
theorem partCapitals_eq (cs : List Char) : partCapitals cs = partAfter endsBeforeCapital cs := by
  induction cs using partCapitals.induct with
  | case1 x y cs h ih =>
    obtain ⟨hx, hy⟩ := h
    have hends : endsBeforeCapital x (y :: cs) = true := by
      rw [endsBeforeCapital, hy, Bool.and_true, Bool.or_eq_true]
      exact hx
    rw [partCapitals, if_pos ⟨hx, hy⟩, ih, partAfter_of_ends hends,
      partAfter_of_not_ends (endsBeforeCapital_of_isCapital hy cs)]
  | case2 x y cs h ih =>
    have hends : endsBeforeCapital x (y :: cs) = false := by
      refine Bool.eq_false_iff.2 ?_
      intro hends
      rw [endsBeforeCapital, Bool.and_eq_true, Bool.or_eq_true] at hends
      exact h hends
    rw [partCapitals, if_neg h, ih, partAfter_of_not_ends hends]
  | case3 cs h =>
    match cs, h with
    | [], _ => rfl
    | [x], _ => rfl
    | x :: y :: cs, h => exact absurd rfl (h x y cs)

/-- A run of capitals and digits with what follows it, cut character by character. -/
theorem partAfter_run {run : List Char} {last : Char} {rest : List Char}
    (hrun : ∀ c ∈ run, inAcronym c = true) (hlast : inAcronym last = true)
    (hrest : ∀ c, rest.head? = some c → inAcronym c = false) :
    partAfter endsAcronym (run ++ last :: rest)
      = partRun run last rest ++ partAfter endsAcronym rest := by
  have hone : partAfter endsAcronym (last :: rest) = last :: partAfter endsAcronym rest :=
    partAfter_of_not_ends (not_endsAcronym_of_not_inAcronym last hrest)
  induction run with
  | nil =>
    have hplain : partRun [] last rest = [last] := by
      cases rest <;> rfl
    rw [List.nil_append, hone, hplain]
    rfl
  | cons x run ih =>
    obtain ⟨hx, hrun⟩ := List.forall_mem_cons.1 hrun
    cases run with
    | nil =>
      -- the only place where a run is cut is before its last character
      rw [List.cons_append, List.nil_append]
      cases rest with
      | nil => rfl
      | cons z rest =>
        by_cases hcut : isCapital last = true ∧ isSmall z = true
        · have hends : endsAcronym x (last :: z :: rest) = true := by
            rw [endsAcronym, hx, hcut.1, hcut.2]
            rfl
          rw [partAfter_of_ends hends, hone, partRun, if_pos ⟨List.cons_ne_nil _ _, hcut⟩]
          rfl
        · have hends : endsAcronym x (last :: z :: rest) = false := by
            refine Bool.eq_false_iff.2 ?_
            intro hends
            rw [endsAcronym, hx, Bool.true_and, Bool.and_eq_true] at hends
            exact hcut hends
          rw [partAfter_of_not_ends hends, hone, partRun, if_neg (fun h => hcut h.2)]
          rfl
    | cons y run =>
      have hends : endsAcronym x (y :: (run ++ last :: rest)) = false := by
        refine not_endsAcronym_of_inAcronym x y ?_
        intro z hz
        cases run with
        | nil =>
          cases hz
          exact hlast
        | cons w run =>
          cases hz
          exact hrun z (List.mem_cons_of_mem _ List.mem_cons_self)
      have hpart : partRun (x :: y :: run) last rest = x :: partRun (y :: run) last rest := by
        cases rest with
        | nil => rfl
        | cons z rest =>
          simp only [partRun, ne_eq, List.cons_ne_nil, not_false_eq_true, true_and]
          split <;> rfl
      rw [List.cons_append, List.cons_append, partAfter_of_not_ends hends, ← List.cons_append, ih hrun,
        hpart]
      rfl

/-- The first replacement is parting after what ends an acronym. -/
theorem partAcronyms_eq (cs : List Char) : partAcronyms cs = partAfter endsAcronym cs := by
  induction cs using partAcronyms.induct with
  | case1 =>
    rw [partAcronyms]
    rfl
  | case2 c cs hc rest ih =>
    have hmem : ∀ d ∈ c :: cs.takeWhile inAcronym, inAcronym d = true := by
      intro d hd
      rcases List.mem_cons.1 hd with rfl | hd
      · exact hc
      · exact List.all_eq_true.1 List.all_takeWhile d hd
    have hrest : ∀ d, (cs.dropWhile inAcronym).head? = some d → inAcronym d = false := by
      intro d hd
      have hhead := List.head?_dropWhile_not inAcronym cs
      rw [hd] at hhead
      exact hhead
    have hne : c :: cs.takeWhile inAcronym ≠ [] := List.cons_ne_nil _ _
    have hrun := List.dropLast_concat_getLast hne
    have hcut := partAfter_run (fun d hd => hmem d (List.dropLast_subset _ hd))
      (hmem _ (List.getLast_mem hne)) hrest
    rw [List.append_cons, hrun, List.cons_append, List.takeWhile_append_dropWhile] at hcut
    rw [hcut, partAcronyms, if_pos hc]
    exact congrArg _ ih
  | case3 c cs hc ih =>
    rw [partAcronyms, if_neg hc, ih,
      partAfter_of_not_ends (not_endsAcronym_outside (Bool.eq_false_iff.2 hc) cs)]

/-! ## The two decisions together -/

/-- Where the first pass makes no cut, the second decides as the rule does. -/
theorem endsWord_eq_of_not_endsAcronym {x y : Char} {cs : List Char}
    (h : endsAcronym x (y :: cs) = false) (ds : List Char) :
    endsWord x (y :: cs) = endsBeforeCapital x (y :: ds) := by
  have hpair : (isCapital x && isCapital y && cs.head?.any isSmall) = false := by
    cases cs with
    | nil => exact Bool.and_false _
    | cons z cs =>
      rw [endsAcronym, inAcronym] at h
      cases hx : isCapital x with
      | false => rfl
      | true =>
        rw [hx, Bool.true_or] at h
        exact h
  rw [endsWord, endsBeforeCapital]
  cases hy : isCapital y with
  | false => rw [Bool.false_and, Bool.and_false]
  | true =>
    rw [hy, Bool.and_true] at hpair
    rw [hpair, Bool.or_false, Bool.true_and, Bool.and_true]

/-- Where the first pass makes a cut, the rule does. -/
theorem endsWord_of_endsAcronym {x : Char} {cs : List Char} (h : endsAcronym x cs = true) :
    endsWord x cs = true := by
  match cs, h with
  | y :: z :: cs, h =>
    simp only [endsAcronym, inAcronym, Bool.and_eq_true, Bool.or_eq_true] at h
    obtain ⟨⟨hx, hy⟩, hz⟩ := h
    simp only [endsWord, List.head?_cons, Option.any_some, Bool.and_eq_true, Bool.or_eq_true]
    rcases hx with hcapital | hdigit
    · exact ⟨hy, .inr ⟨hcapital, hz⟩⟩
    · exact ⟨hy, .inl (.inr hdigit)⟩

/-- **Both passes are one**: what the second makes of what the first made is what the rule makes. -/
theorem partAfter_partAfter (cs : List Char) :
    partAfter endsBeforeCapital (partAfter endsAcronym cs) = partAfter endsWord cs := by
  induction cs with
  | nil => rfl
  | cons x cs ih =>
    cases hends : endsAcronym x cs with
    | true =>
      -- the second pass goes past an underscore without a cut on either side
      have hbefore : ∀ ds, endsBeforeCapital x ('_' :: ds) = false := fun _ => Bool.and_false _
      have hafter : ∀ ds, endsBeforeCapital '_' ds = false := by
        intro ds
        cases ds with
        | nil => rfl
        | cons y ds => rfl
      rw [partAfter_of_ends hends, partAfter_of_not_ends (hbefore _),
        partAfter_of_not_ends (hafter _), ih, partAfter_of_ends (endsWord_of_endsAcronym hends)]
    | false =>
      rw [partAfter_of_not_ends hends]
      cases cs with
      | nil => rfl
      | cons y cs =>
        obtain ⟨ds, hds⟩ := partAfter_cons_eq endsAcronym y cs
        have hsame := endsWord_eq_of_not_endsAcronym hends ds
        rw [hds] at ih ⊢
        show (if endsBeforeCapital x (y :: ds) then _ else _)
          = if endsWord x (y :: cs) then _ else _
        rw [hsame, ih]

/-- The words of a segment, parted by the rule. -/
theorem partCapitals_partAcronyms (cs : List Char) :
    partCapitals (partAcronyms cs) = partAfter endsWord cs := by
  rw [partCapitals_eq, partAcronyms_eq, partAfter_partAfter]

/-! ## Passes as replacements -/

/-- A pattern of two groups, by the pairs of texts that they match one after the other. -/
abbrev Pattern := List Char → List Char → Prop

/-- The pattern matches at the start of the text. -/
def Pattern.Occurs (p : Pattern) (cs : List Char) : Prop :=
  ∃ first second rest, cs = first ++ second ++ rest ∧ p first second

/-- `ds` is `cs` with an underscore put between the groups of every match.  The leftmost match comes
    first, and the search goes on behind it. -/
inductive Replaced (p : Pattern) : List Char → List Char → Prop where
  | nil : Replaced p [] []
  | found {first second rest ds : List Char} (h : p first second) (hrest : Replaced p rest ds) :
    Replaced p (first ++ second ++ rest) (first ++ '_' :: (second ++ ds))
  | moved {c : Char} {cs ds : List Char} (h : ¬p.Occurs (c :: cs)) (hrest : Replaced p cs ds) :
    Replaced p (c :: cs) (c :: ds)

/-- A run of capitals and digits, and behind it a capital and a small letter.  As the small letter
    ends the run, there is one way to match at a place, however greedy the run is. -/
inductive AcronymPattern : Pattern where
  | mk {run : List Char} {y z : Char} (hne : run ≠ []) (hrun : ∀ c ∈ run, inAcronym c = true)
    (hy : isCapital y = true) (hz : isSmall z = true) : AcronymPattern run [y, z]

/-- A small letter or a digit, and behind it a capital. -/
inductive CapitalPattern : Pattern where
  | mk {x y : Char} (hx : (isSmall x || Text.isDecimalDigit x) = true) (hy : isCapital y = true) :
    CapitalPattern [x] [y]

/-- The decision to cut after a character makes the same cuts as the matches of the pattern. -/
structure Pattern.DecidedBy (p : Pattern) (ends : Char → List Char → Bool) : Prop where
  nonempty : ∀ {first second}, p first second → first ≠ []
  cut : ∀ {first second}, p first second → ∀ rest,
    partAfter ends (first ++ second ++ rest) = first ++ '_' :: (second ++ partAfter ends rest)
  occurs : ∀ {x cs}, ends x cs = true → p.Occurs (x :: cs)

/-- **Replacing matches is deciding character by character.** -/
theorem Pattern.DecidedBy.replaced_iff {p : Pattern} {ends : Char → List Char → Bool}
    (h : p.DecidedBy ends) {cs ds : List Char} : Replaced p cs ds ↔ ds = partAfter ends cs := by
  constructor
  · intro hreplaced
    induction hreplaced with
    | nil => rfl
    | found hp _ ih => rw [h.cut hp, ih]
    | @moved c cs ds hnot _ ih =>
      have hends : ends c cs = false := Bool.eq_false_iff.2 (mt h.occurs hnot)
      rw [partAfter_of_not_ends hends, ih]
  · rintro rfl
    -- a match takes more than one character away, so the induction is on the length
    induction hlen : cs.length using Nat.strongRecOn generalizing cs with
    | ind n ih =>
      by_cases hoccurs : p.Occurs cs
      · obtain ⟨first, second, rest, rfl, hp⟩ := hoccurs
        have hpos := List.length_pos_iff.2 (h.nonempty hp)
        rw [List.length_append, List.length_append] at hlen
        rw [h.cut hp]
        exact .found hp (ih rest.length (by omega) rfl)
      · cases cs with
        | nil => exact .nil
        | cons c cs =>
          rw [List.length_cons] at hlen
          have hends : ends c cs = false := Bool.eq_false_iff.2 (mt h.occurs hoccurs)
          rw [partAfter_of_not_ends hends]
          exact .moved hoccurs (ih cs.length (by omega) rfl)

/-- Where the first pattern matches is decided by the characters ahead. -/
theorem acronymPattern_decidedBy : Pattern.DecidedBy AcronymPattern endsAcronym := by
  refine ⟨?_, ?_, ?_⟩
  · rintro _ _ ⟨hne, -, -, -⟩
    exact hne
  · rintro _ _ ⟨hne, hrun, hy, hz⟩ rest
    rename_i run y z
    have hacronym : inAcronym y = true := by rw [inAcronym, hy, Bool.true_or]
    have hnot : inAcronym z = false := by
      refine Bool.eq_false_iff.2 ?_
      intro hin
      rw [not_isSmall_of_inAcronym hin] at hz
      cases hz
    have hrest : ∀ c, (z :: rest).head? = some c → inAcronym c = false := by
      intro c hc
      cases hc
      exact hnot
    have hnext : endsAcronym z rest = false := not_endsAcronym_outside hnot rest
    have htext : run ++ [y, z] ++ rest = run ++ y :: z :: rest := by
      rw [List.append_assoc]
      rfl
    have hpart : partRun run y (z :: rest) = run ++ ['_', y] := if_pos ⟨hne, hy, hz⟩
    rw [htext, partAfter_run hrun hacronym hrest, hpart, partAfter_of_not_ends hnext,
      List.append_assoc]
    rfl
  · intro x cs hends
    match cs, hends with
    | y :: z :: cs, hends =>
      simp only [endsAcronym, Bool.and_eq_true] at hends
      obtain ⟨⟨hx, hy⟩, hz⟩ := hends
      refine ⟨[x], [y, z], cs, rfl, .mk (List.cons_ne_nil _ _) ?_ hy hz⟩
      intro c hc
      rwa [List.mem_singleton.1 hc]

/-- Where the second pattern matches is decided by the characters ahead. -/
theorem capitalPattern_decidedBy : Pattern.DecidedBy CapitalPattern endsBeforeCapital := by
  refine ⟨?_, ?_, ?_⟩
  · rintro _ _ ⟨-, -⟩
    exact List.cons_ne_nil _ _
  · rintro _ _ ⟨hx, hy⟩ rest
    rename_i x y
    have hends : endsBeforeCapital x (y :: rest) = true := by
      rw [endsBeforeCapital, hx, hy]
      rfl
    show partAfter endsBeforeCapital (x :: y :: rest) = _
    rw [partAfter_of_ends hends, partAfter_of_not_ends (endsBeforeCapital_of_isCapital hy rest)]
    rfl
  · intro x cs hends
    match cs, hends with
    | y :: cs, hends =>
      rw [endsBeforeCapital, Bool.and_eq_true] at hends
      exact ⟨[x], [y], cs, rfl, .mk hends.1 hends.2⟩

/-! ## Main result -/

/-- **Words are parted by one local rule.**  The two passes of replacements, the second over the
    result of the first, put an underscore exactly where the rule does, whatever runs there are; and
    a segment is parted so, its dashes become underscores, and it is put in lower case. -/
theorem underscore_parts_by_rule (s : String) :
    (∀ es, (∃ ds, Replaced AcronymPattern s.toList ds ∧ Replaced CapitalPattern ds es) ↔
      es = partAfter endsWord s.toList) ∧
    underscore s = String.ofList
      (Text.lower ((partAfter endsWord s.toList).map fun c => if c = '-' then '_' else c)) := by
  constructor
  · intro es
    simp only [acronymPattern_decidedBy.replaced_iff, capitalPattern_decidedBy.replaced_iff,
      exists_eq_left, partAfter_partAfter]
  · rw [underscore, underscoreChars, partCapitals_partAcronyms]

/-- Runs of capitals and digits beside small letters. -/
example : partAfter endsWord "HTTPServer2IDs9Ab".toList = "HTTP_Server2_I_Ds9_Ab".toList := by
  decide

end ValueTypes.Identifier
