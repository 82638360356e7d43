/-
  Deriving a key is idempotent.

  A key is in a normal form (`Identifier.Normal`): no character of it has another lower case, none
  is a bracket, a slash or a dash at which a name is cut or changed, and there are no two colons in a
  row.  Each step of the derivation brings about one of these and takes none back:

    * lowercasing gives characters that are their own lower case (`Text.settled_of_mem_lower`), since
      no run of the table leads into another (`Text.caseRuns_apart`), and these are no capitals, so
      no word starts at one of them;
    * the pieces between double colons have none (`cutColons_sparse`), and what happens to
      them later never brings two colons together (`KeepsApart`).

  A text in normal form is one segment of one word in lower case, so it is its own key
  (`identifier_eq_self`).
-/
import Mathlib.Data.List.Chain
import Mathlib.Data.List.TakeWhile
import ValueTypes.Proofs.Atomicity
import ValueTypes.Proofs.Words

namespace ValueTypes

/-! ## Lower case -/

namespace Text

/-- The character has no other character as its lower case. -/
def Settled (c : Char) : Prop := c ≠ 'İ' ∧ ∀ r ∈ caseRuns, r.covers c = false

instance (c : Char) : Decidable (Settled c) := inferInstanceAs (Decidable (_ ∧ _))

/-- The code point of the lower case of `n`, for a capital `n` of the run. -/
def CaseRun.image (r : CaseRun) (n : Nat) : Nat := (n + r.shift).toNat

/-- Whether no lower case of the first run is a capital of the second: the lower cases lie before or
    behind the capitals, or step over them. -/
def CaseRun.apart (r s : CaseRun) : Bool :=
  bif Nat.ble s.first (r.image r.last) && Nat.ble (r.image r.first) s.last then
    s.stride == 2 && (r.stride == 2 || r.first == r.last) && (r.image r.first - s.first) % 2 == 1
  else true

/-- The dotted capital as a run of its own. -/
def dottedRun : CaseRun := ⟨0x130, 0x130, 1, 0⟩

/-- What the capitals of a run are lowercased to is in none of the runs. -/
theorem caseRuns_apart : ∀ r ∈ caseRuns, ∀ s ∈ dottedRun :: caseRuns, r.apart s = true := by
  have hall : (caseRuns.all fun r => (dottedRun :: caseRuns).all r.apart) = true := by
    decide +kernel
  intro r hr
  exact List.all_eq_true.1 (List.all_eq_true.1 hall r hr)

theorem CaseRun.covers_iff {r : CaseRun} {c : Char} :
    r.covers c = true ↔
      r.first ≤ c.toNat ∧ c.toNat ≤ r.last ∧ (c.toNat - r.first) % r.stride = 0 := by
  simp only [covers, Bool.and_eq_true, decide_eq_true_eq, and_assoc]

theorem CaseRun.not_covers_of_apart {r s : CaseRun} (h : r.apart s = true) {c d : Char}
    (hc : r.covers c = true) (hd : d.toNat = r.image c.toNat) : s.covers d = false := by
  refine Bool.eq_false_iff.2 ?_
  intro hs
  obtain ⟨hfrom, hto, hstep⟩ := covers_iff.1 hc
  obtain ⟨hfrom', hto', hstep'⟩ := covers_iff.1 hs
  rw [hd, image] at hfrom' hto' hstep'
  have hmeet : (Nat.ble s.first (r.image r.last) && Nat.ble (r.image r.first) s.last) = true := by
    rw [Bool.and_eq_true, Nat.ble_eq, Nat.ble_eq, image, image]
    omega
  rw [apart, hmeet, cond_true] at h
  simp only [image, Bool.and_eq_true, Bool.or_eq_true, beq_iff_eq] at h
  obtain ⟨⟨hstride, hother⟩, hodd⟩ := h
  -- the lower cases are the odd places of the second run, its capitals the even ones
  rw [hstride] at hstep'
  rcases hother with htwo | hone
  · rw [htwo] at hstep
    omega
  · omega

/-- The lower case of a character is its own lower case. -/
theorem settled_of_mem_lowerChar {c x : Char} (h : x ∈ lowerChar c) : Settled x := by
  unfold lowerChar at h
  split at h
  · simp only [List.mem_cons, List.not_mem_nil, or_false] at h
    rcases h with rfl | rfl
    · decide +kernel
    · decide +kernel
  · rename_i hdotted
    split at h
    · rename_i r hfind
      obtain rfl := List.mem_singleton.1 h
      show Settled (Char.ofNat (r.image c.toNat))
      have hr := List.mem_of_find?_eq_some hfind
      have hcovers := List.find?_some hfind
      by_cases hvalid : (r.image c.toNat).isValidChar
      · have htoNat : (Char.ofNat (r.image c.toNat)).toNat = r.image c.toNat :=
          congrArg Char.toNat (dif_pos hvalid)
        have hmisses : ∀ s ∈ dottedRun :: caseRuns,
            s.covers (Char.ofNat (r.image c.toNat)) = false := fun s hs =>
          CaseRun.not_covers_of_apart (caseRuns_apart r hr s hs) hcovers htoNat
        refine ⟨?_, fun s hs => hmisses s (List.mem_cons_of_mem _ hs)⟩
        intro heq
        have hdotted := hmisses dottedRun List.mem_cons_self
        rw [heq] at hdotted
        exact absurd hdotted (by decide)
      · -- a number that is no character stands for the first of all
        have hzero : Char.ofNat (r.image c.toNat) = Char.ofNat 0 := dif_neg hvalid
        rw [hzero]
        decide +kernel
    · rename_i hnone
      obtain rfl := List.mem_singleton.1 h
      refine ⟨hdotted, ?_⟩
      intro r hr
      exact Bool.eq_false_iff.2 (List.find?_eq_none.1 hnone r hr)

theorem settled_of_mem_lowerAfter {x : Char} {before cs : List Char}
    (h : x ∈ lowerAfter before cs) : Settled x := by
  induction cs generalizing before with
  | nil => cases h
  | cons c cs ih =>
    rw [lowerAfter, List.mem_append] at h
    rcases h with h | h
    · split at h
      · split at h
        · obtain rfl := List.mem_singleton.1 h
          decide +kernel
        · obtain rfl := List.mem_singleton.1 h
          decide +kernel
      · exact settled_of_mem_lowerChar h
    · exact ih h

/-- Lowercase text is made of characters that lowercasing leaves alone. -/
theorem settled_of_mem_lower {x : Char} {cs : List Char} (h : x ∈ lower cs) : Settled x :=
  settled_of_mem_lowerAfter h

theorem lowerAfter_eq_self {cs : List Char} (h : ∀ c ∈ cs, Settled c) (before : List Char) :
    lowerAfter before cs = cs := by
  induction cs generalizing before with
  | nil => rfl
  | cons c cs ih =>
    obtain ⟨⟨hdotted, hruns⟩, hcs⟩ := List.forall_mem_cons.1 h
    have hsigma : c ≠ 'Σ' := by
      rintro rfl
      revert hruns
      decide +kernel
    have hnone : caseRuns.find? (·.covers c) = none := by
      refine List.find?_eq_none.2 ?_
      intro r hr
      rw [hruns r hr]
      exact Bool.false_ne_true
    have hlower : lowerChar c = [c] := by rw [lowerChar, if_neg hdotted, hnone]
    rw [lowerAfter, if_neg hsigma, hlower, ih hcs]
    rfl

/-- **Lowercasing changes nothing that it gave.** -/
theorem lower_eq_self {cs : List Char} (h : ∀ c ∈ cs, Settled c) : lower cs = cs :=
  lowerAfter_eq_self h []

/-- The first run of the table has the capitals of ASCII. -/
theorem Settled.not_isCapital {c : Char} (h : Settled c) : Identifier.isCapital c = false := by
  refine Bool.eq_false_iff.2 ?_
  intro hc
  have hcapital := Identifier.isCapital_iff.1 hc
  have hfirst : CaseRun.covers ⟨0x41, 0x5A, 1, 32⟩ c = true :=
    CaseRun.covers_iff.2 ⟨hcapital.1, hcapital.2, Nat.mod_one _⟩
  rw [h.2 _ List.mem_cons_self] at hfirst
  cases hfirst

end Text

namespace Identifier

/-! ## Colons -/

/-- There are no two colons in a row. -/
def Sparse (cs : List Char) : Prop := List.IsChain (fun x y => ¬(x = ':' ∧ y = ':')) cs

theorem Sparse.not_infix {cs : List Char} (h : Sparse cs) : ¬[':', ':'] <:+: cs := by
  intro hwithin
  have hpair : Sparse [':', ':'] := List.IsChain.infix h hwithin
  exact (List.isChain_cons_cons.1 hpair).1 ⟨rfl, rfl⟩

theorem sparse_cons_cons {x y : Char} {cs : List Char} :
    Sparse (x :: y :: cs) ↔ ¬(x = ':' ∧ y = ':') ∧ Sparse (y :: cs) := List.isChain_cons_cons

theorem Sparse.tail {x : Char} {cs : List Char} (h : Sparse (x :: cs)) : Sparse cs :=
  List.IsChain.tail h

/-- Behind a character that is no colon anything sparse may stand. -/
theorem Sparse.cons {x : Char} {cs : List Char} (hx : x ≠ ':') (h : Sparse cs) :
    Sparse (x :: cs) := by
  cases cs with
  | nil => exact List.isChain_singleton x
  | cons y cs => exact sparse_cons_cons.2 ⟨fun hboth => hx hboth.1, h⟩

/-- Behind any character, the second text has no two colons in a row if the first has none. -/
def KeepsApart (cs ds : List Char) : Prop := ∀ x, Sparse (x :: cs) → Sparse (x :: ds)

theorem KeepsApart.trans {as bs cs : List Char} (hab : KeepsApart as bs) (hbc : KeepsApart bs cs) :
    KeepsApart as cs := fun x h => hbc x (hab x h)

/-- A text without colons in the place of a character that is none. -/
theorem KeepsApart.replace {cs ds : List Char} (h : KeepsApart cs ds) {c : Char} {w : List Char}
    (hne : w ≠ []) (hw : ':' ∉ w) : KeepsApart (c :: cs) (w ++ ds) := by
  intro x hx
  have hend : Sparse ('_' :: ds) := h '_' (hx.tail.tail.cons (by decide))
  have hbehind : ∀ w : List Char, ':' ∉ w → Sparse (w ++ ds) ∧
      ∀ y, w ≠ [] → Sparse (y :: (w ++ ds)) := by
    intro w hw
    induction w with
    | nil => exact ⟨hend.tail, fun _ hne => absurd rfl hne⟩
    | cons z w ih =>
      rw [List.mem_cons, not_or] at hw
      have hz : Sparse (z :: (w ++ ds)) := (ih hw.2).1.cons (Ne.symm hw.1)
      exact ⟨hz, fun y _ => sparse_cons_cons.2 ⟨fun hboth => hw.1 hboth.2.symm, hz⟩⟩
  exact (hbehind w hw).2 x hne

/-- A character that stays. -/
theorem KeepsApart.keep {cs ds : List Char} (h : KeepsApart cs ds) (c : Char) :
    KeepsApart (c :: cs) (c :: ds) := by
  intro x hx
  obtain ⟨hpair, hcs⟩ := sparse_cons_cons.1 hx
  exact sparse_cons_cons.2 ⟨hpair, h c hcs⟩

theorem keepsApart_refl (cs : List Char) : KeepsApart cs cs := fun _ h => h

theorem Parted.keepsApart {cs ds : List Char} (h : Parted cs ds) : KeepsApart cs ds := by
  induction h with
  | nil => exact keepsApart_refl []
  | keep c _ ih => exact ih.keep c
  | @part cs ds _ ih =>
    intro x hx
    have hds : Sparse ('_' :: ds) := ih '_' (hx.tail.cons (by decide))
    exact sparse_cons_cons.2 ⟨fun hboth => absurd hboth.2 (by decide), hds⟩

theorem map_keepsApart (cs : List Char) :
    KeepsApart cs (cs.map fun c => if c = '-' then '_' else c) := by
  induction cs with
  | nil => exact keepsApart_refl []
  | cons c cs ih =>
    rw [List.map_cons]
    by_cases hc : c = '-'
    · rw [if_pos hc]
      exact ih.replace (w := ['_']) (List.cons_ne_nil _ _) (by decide)
    · rw [if_neg hc]
      exact ih.keep c

theorem lowerAfter_keepsApart (before cs : List Char) :
    KeepsApart cs (Text.lowerAfter before cs) := by
  have hcolon : Text.BelowLetters ':' := ⟨by decide, by decide⟩
  induction cs generalizing before with
  | nil => exact keepsApart_refl []
  | cons c cs ih =>
    by_cases hc : c = ':'
    · subst hc
      exact (ih _).keep ':'
    · rw [Text.lowerAfter]
      refine (ih (c :: before)).replace ?_ ?_
      · split
        · split <;> exact List.cons_ne_nil _ _
        · exact Text.lowerChar_ne_nil c
      · split
        · split <;> decide
        · exact fun hmem => hc ((Text.mem_lowerChar_iff hcolon c).1 hmem).symm

/-- Underscoring brings no two colons together. -/
theorem underscoreChars_keepsApart (cs : List Char) : KeepsApart cs (underscoreChars cs) := by
  have hwords := (partAcronyms_parted cs).keepsApart.trans (partCapitals_parted _).keepsApart
  exact (hwords.trans (map_keepsApart _)).trans (lowerAfter_keepsApart [] _)

/-! ## Pieces -/

/-- The first piece between double colons is the start of the text, and no piece has a double
    colon. -/
theorem cutColons_sparse (cs : List Char) :
    ∃ p ps, cutColons cs = p :: ps ∧ p <+: cs ∧ ∀ q ∈ p :: ps, Sparse q := by
  induction cs using cutColons.induct with
  | case1 => exact ⟨[], [], rfl, List.prefix_refl _, List.forall_mem_singleton.2 List.isChain_nil⟩
  | case2 cs ih =>
    obtain ⟨p, ps, hcut, -, hsparse⟩ := ih
    refine ⟨[], p :: ps, ?_, List.nil_prefix, List.forall_mem_cons.2 ⟨List.isChain_nil, hsparse⟩⟩
    rw [cutColons, hcut]
  | case3 c cs h ih =>
    obtain ⟨p, ps, hcut, hprefix, hsparse⟩ := ih
    obtain ⟨hp, hps⟩ := List.forall_mem_cons.1 hsparse
    refine ⟨c :: p, ps, ?_, List.cons_prefix_cons.2 ⟨rfl, hprefix⟩, ?_⟩
    · rw [cutColons, hcut, extend]
      exact h
    · refine List.forall_mem_cons.2 ⟨?_, hps⟩
      cases p with
      | nil => exact List.isChain_singleton c
      | cons d p =>
        refine sparse_cons_cons.2 ⟨?_, hp⟩
        rintro ⟨rfl, rfl⟩
        obtain ⟨rest, rfl⟩ := hprefix
        exact h (p ++ rest) rfl rfl

/-- Pieces between slashes are parts of the text, the first one its start. -/
theorem cutSlashes_infix (cs : List Char) :
    ∃ p ps, cutSlashes cs = p :: ps ∧ p <+: cs ∧ ∀ q ∈ ps, q <:+: cs := by
  induction cs with
  | nil => exact ⟨[], [], rfl, List.prefix_refl _, nofun⟩
  | cons c cs ih =>
    obtain ⟨p, ps, hcut, hprefix, hwithin⟩ := ih
    have hall : ∀ q ∈ ps, q <:+: c :: cs :=
      fun q hq => (hwithin q hq).trans (List.suffix_cons c cs).isInfix
    rw [cutSlashes]
    split
    · refine ⟨[], p :: ps, by rw [hcut], List.nil_prefix, List.forall_mem_cons.2 ⟨?_, hall⟩⟩
      exact hprefix.isInfix.trans (List.suffix_cons c cs).isInfix
    · exact ⟨c :: p, ps, by rw [hcut, extend], List.cons_prefix_cons.2 ⟨rfl, hprefix⟩, hall⟩

/-- A segment has no two colons in a row. -/
theorem sparse_of_mem_segments {cs p : List Char} (h : p ∈ segments cs) : Sparse p := by
  obtain ⟨piece, hpiece, hp⟩ := List.mem_flatMap.1 (List.mem_filter.1 h).1
  obtain ⟨first, others, hcut, -, hsparse⟩ := cutColons_sparse (cs.takeWhile (· ≠ '<'))
  have hwhole : Sparse piece := hsparse piece (hcut ▸ hpiece)
  obtain ⟨q, qs, hslashes, hprefix, hwithin⟩ := cutSlashes_infix piece
  rw [hslashes] at hp
  rcases List.mem_cons.1 hp with rfl | hp
  · exact List.IsChain.infix hwhole hprefix.isInfix
  · exact List.IsChain.infix hwhole (hwithin p hp)

/-- Dots keep joined pieces apart. -/
theorem sparse_intercalate {ps : List (List Char)} (h : ∀ p ∈ ps, Sparse p) :
    Sparse (List.intercalate ['.'] ps) := by
  induction ps with
  | nil => exact List.isChain_nil
  | cons p ps ih =>
    obtain ⟨hp, hps⟩ := List.forall_mem_cons.1 h
    cases ps with
    | nil =>
      have hone : List.intercalate ['.'] [p] = p := by simp
      rwa [hone]
    | cons q ps =>
      rw [List.intercalate_cons_cons, List.append_assoc]
      refine List.isChain_append.2 ⟨hp, (ih hps).cons (by decide), ?_⟩
      rintro x - y hy ⟨-, rfl⟩
      cases hy

/-! ## Normal keys -/

/-- What the text of a key is made of. -/
structure Normal (cs : List Char) : Prop where
  settled : ∀ c ∈ cs, Text.Settled c
  openBracket : '<' ∉ cs
  slash : '/' ∉ cs
  dash : '-' ∉ cs
  colons : Sparse cs

theorem Normal.not_isCapital {cs : List Char} (h : Normal cs) :
    ∀ c ∈ cs, isCapital c = false := fun c hc => (h.settled c hc).not_isCapital

/-- Without capitals no word starts. -/
theorem partAfter_eq_self {cs : List Char} (h : ∀ c ∈ cs, isCapital c = false) :
    partAfter endsWord cs = cs := by
  induction cs with
  | nil => rfl
  | cons x cs ih =>
    obtain ⟨-, hcs⟩ := List.forall_mem_cons.1 h
    have hends : endsWord x cs = false := by
      cases cs with
      | nil => rfl
      | cons y cs => rw [endsWord, hcs y List.mem_cons_self, Bool.false_and]
    rw [partAfter_of_not_ends hends, ih hcs]

/-- Underscoring leaves a normal text alone. -/
theorem Normal.underscoreChars_eq_self {cs : List Char} (h : Normal cs) :
    underscoreChars cs = cs := by
  have hmap : cs.map (fun c => if c = '-' then '_' else c) = cs := by
    refine (List.map_congr_left ?_).trans (List.map_id cs)
    intro c hc
    refine if_neg ?_
    rintro rfl
    exact h.dash hc
  rw [underscoreChars, partCapitals_partAcronyms, partAfter_eq_self h.not_isCapital, hmap,
    Text.lower_eq_self h.settled]

theorem cutColons_eq_self {cs : List Char} (h : Sparse cs) : cutColons cs = [cs] := by
  induction cs using cutColons.induct with
  | case1 => rfl
  | case2 cs ih => exact absurd ⟨rfl, rfl⟩ (sparse_cons_cons.1 h).1
  | case3 c cs hnot ih =>
    rw [cutColons, ih h.tail, extend]
    exact hnot

theorem cutSlashes_eq_self {cs : List Char} (h : '/' ∉ cs) : cutSlashes cs = [cs] := by
  induction cs with
  | nil => rfl
  | cons c cs ih =>
    rw [List.mem_cons, not_or] at h
    rw [cutSlashes, if_neg (Ne.symm h.1), ih h.2, extend]

/-- A text in normal form is one segment, if it is not empty. -/
theorem Normal.segments_eq {cs : List Char} (h : Normal cs) :
    segments cs = [cs].filter (· ≠ []) := by
  have hpath : cs.takeWhile (· ≠ '<') = cs := by
    refine List.takeWhile_eq_self_iff.2 ?_
    intro c hc
    refine decide_eq_true ?_
    rintro rfl
    exact h.openBracket hc
  rw [segments, hpath, cutColons_eq_self h.colons, List.flatMap_singleton, cutSlashes_eq_self h.slash]

end Identifier

open Identifier

/-- A text in normal form is its own key. -/
theorem identifier_eq_self {s : String} (h : Normal s.toList) : identifier s = s := by
  rw [identifier, h.segments_eq]
  by_cases hne : s.toList = []
  · rw [hne]
    exact (String.toList_eq_nil_iff.1 hne).symm
  · have hone : [s.toList].filter (· ≠ []) = [s.toList] :=
      List.filter_cons_of_pos (decide_eq_true hne)
    rw [hone, List.map_singleton, List.intercalate_singleton, h.underscoreChars_eq_self,
      String.ofList_toList]

/-- The characters of a key are the dots and those of the words. -/
theorem exists_of_mem_identifier {x : Char} {name : String} (hx : x ≠ '.')
    (h : x ∈ (identifier name).toList) : ∃ p ∈ segments name.toList, x ∈ underscoreChars p := by
  rw [identifier, String.toList_ofList, mem_intercalate_iff hx, ← List.flatMap_def] at h
  exact List.mem_flatMap.1 h

/-- **A key is in normal form.** -/
theorem identifier_normal (name : String) : Normal (identifier name).toList := by
  refine ⟨?_, open_not_mem_identifier name, ?_, ?_, ?_⟩
  · intro x hx
    by_cases hdot : x = '.'
    · subst hdot
      decide +kernel
    · obtain ⟨p, -, hp⟩ := exists_of_mem_identifier hdot hx
      exact Text.settled_of_mem_lower hp
  · intro hslash
    obtain ⟨p, hmem, hp⟩ := exists_of_mem_identifier (by decide) hslash
    rw [mem_underscoreChars_iff ⟨by decide, by decide⟩ (by decide)] at hp
    have hflat : '/' ∈ (segments name.toList).flatten := List.mem_flatten.2 ⟨p, hmem, hp⟩
    rw [flatten_segments] at hflat
    exact of_decide_eq_true (List.mem_filter.1 hflat).2 rfl
  · intro hdash
    obtain ⟨p, -, hp⟩ := exists_of_mem_identifier (by decide) hdash
    rw [underscoreChars, Text.mem_lower_iff ⟨by decide, by decide⟩, List.mem_map] at hp
    obtain ⟨c, -, hc⟩ := hp
    by_cases hcdash : c = '-'
    · rw [if_pos hcdash] at hc
      exact absurd hc (by decide)
    · rw [if_neg hcdash] at hc
      exact hcdash hc
  · rw [identifier, String.toList_ofList]
    refine sparse_intercalate ?_
    intro w hw
    obtain ⟨p, hp, rfl⟩ := List.mem_map.1 hw
    have hsparse := (sparse_of_mem_segments hp).cons (x := '_') (by decide)
    exact (underscoreChars_keepsApart p '_' hsparse).tail

/-! ## One binding -/

namespace Context

variable {σ : Type}

/-- A class or a record is registered under a name, as the type `t`: a class as a type of its kind
    under the key, with its constructor for the only step, and a record as the type that its
    declaration gives. -/
inductive Registers (ctx : Context σ) (name : String) : Ty σ → Context σ → Prop where
  | ofClass (kind : Kind) (op : σ) :
    Registers ctx name
      ((Ty.new ctx.next (identifier name) kind).withStep (ctx.next + 1) ⟨ctx.next, .custom op⟩)
      (ctx.registerClass name kind op).2
  | ofRecord {after : Context σ} {fields : List (String × TypeRef σ)} {t : Ty σ}
    (h : ctx.defineRecord name fields = (.ok t, after)) : Registers ctx name t after

/-- The key of the name is bound to the type. -/
theorem Registers.bound {ctx after : Context σ} {name : String} {t : Ty σ}
    (h : ctx.Registers name t after) :
    after.registry.bindings.get? (identifier name) = some (.type t) := by
  cases h with
  | ofClass kind op => exact ctx.register_bound _ _
  | ofRecord h =>
    obtain ⟨mid, -, rfl⟩ := defineRecord_eq_ok h
    exact mid.register_bound _ _

/-- What is registered is bound under the key of the name, and no other key is. -/
theorem Registers.mem_keys_iff {ctx after : Context σ} {name : String} {t : Ty σ}
    (h : ctx.Registers name t after) (key : String) :
    key ∈ after.registry.keys ↔ key = identifier name ∨ key ∈ ctx.registry.keys := by
  have hbind : ∀ (mid : Context σ) (t : Ty σ), mid.registry.keys = ctx.registry.keys →
      (key ∈ (mid.registry.bind (identifier name) (.type t)).keys ↔
        key = identifier name ∨ key ∈ ctx.registry.keys) := by
    intro mid t hmid
    rw [← hmid, Registry.keys, Registry.keys, Dict.mem_keys_iff, Dict.mem_keys_iff, Registry.bind,
      Dict.get?_insert]
    by_cases hkey : key = identifier name
    · simp [hkey]
    · simp [hkey]
  cases h with
  | ofClass kind op => exact hbind ctx _ rfl
  | ofRecord h =>
    obtain ⟨mid, hmid, rfl⟩ := defineRecord_eq_ok h
    exact hbind mid _ hmid.grows.registry.keys_eq

/-- A registration took the place of another under one key: no key was added, and what the key was
    bound to gave way to what it is bound to now. -/
structure Replaces (key : String) (t t' : Ty σ) (mid after : Context σ) : Prop where
  keys : after.registry.keys = mid.registry.keys
  first : mid.registry.bindings.get? key = some (.type t)
  last : after.registry.bindings.get? key = some (.type t')

/-- Names with one key share its binding: the second registration takes the place of the first. -/
theorem Registers.replaces {ctx mid after : Context σ} {first second : String} {t t' : Ty σ}
    (h : ctx.Registers first t mid) (h' : mid.Registers second t' after)
    (hkey : identifier second = identifier first) :
    Replaces (identifier first) t t' mid after where
  keys := by
    refine Dict.keys_eq_of_mem_iff ?_
    intro key
    show key ∈ after.registry.keys ↔ key ∈ mid.registry.keys
    rw [h'.mem_keys_iff, or_iff_right_iff_imp, hkey]
    intro heq
    exact (h.mem_keys_iff key).2 (.inl heq)
  first := h.bound
  last := hkey ▸ h'.bound

end Context

/-! ## Main result -/

/-- **Deriving a key is idempotent**: a key is its own key.  It has none of the characters at which a
    name is cut or changed: no `<`, no `/`, no `::`, no dash and no capital.  So classes and records
    that are registered under a name and under its key, in whichever order, share one binding: it
    holds what was registered last. -/
theorem identifier_is_idempotent {σ : Type} (name : String) :
    identifier (identifier name) = identifier name ∧
    ('<' ∉ (identifier name).toList ∧ '/' ∉ (identifier name).toList ∧
      ¬[':', ':'] <:+: (identifier name).toList ∧ '-' ∉ (identifier name).toList ∧
      ∀ c ∈ (identifier name).toList, isCapital c = false) ∧
    ∀ (ctx mid after : Context σ) (t t' : Ty σ),
      (ctx.Registers name t mid → mid.Registers (identifier name) t' after →
        Context.Replaces (identifier name) t t' mid after) ∧
      (ctx.Registers (identifier name) t mid → mid.Registers name t' after →
        Context.Replaces (identifier name) t t' mid after) := by
  have hnormal := identifier_normal name
  have hself : identifier (identifier name) = identifier name := identifier_eq_self hnormal
  refine ⟨hself, ⟨hnormal.openBracket, hnormal.slash, hnormal.colons.not_infix, hnormal.dash,
    hnormal.not_isCapital⟩, ?_⟩
  intro ctx mid after t t'
  refine ⟨fun h h' => h.replaces h' hself, fun h h' => ?_⟩
  have hreplaces := h.replaces h' hself.symm
  rwa [hself] at hreplaces

/-- A class is registered, and then a record without fields under its key. -/
theorem identifier_is_idempotent_at_generic :
    let name := "HTTPServer:::Item-List<T>"
    let mid : Context Unit := (Context.empty.registerClass name .any ()).2
    ∃ (after : Context Unit) (t t' : Ty Unit),
      Context.empty.Registers name t mid ∧ mid.Registers (identifier name) t' after ∧
      identifier (identifier name) = "http_server.:item_list" ∧
      Context.Replaces (identifier name) t t' mid after := by
  intro name mid
  obtain ⟨t, hclass⟩ : ∃ t, Context.empty.Registers name t mid := ⟨_, .ofClass .any ()⟩
  obtain ⟨t', after, hdefined⟩ :
      ∃ t' after, mid.defineRecord (identifier name) [] = (.ok t', after) := ⟨_, _, rfl⟩
  have hrecord : mid.Registers (identifier name) t' after := .ofRecord hdefined
  obtain ⟨hself, -, hshare⟩ := identifier_is_idempotent (σ := Unit) name
  have hkey : identifier name = "http_server.:item_list" := by decide +kernel
  exact ⟨after, t, t', hclass, hrecord, hself.trans hkey, (hshare _ _ _ _ _).1 hclass hrecord⟩

end ValueTypes
