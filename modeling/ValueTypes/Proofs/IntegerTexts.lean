/-
  Which texts are integers.

  The integer type that converts reads a text in three steps: the blanks around it are cut off, what
  is left is read as a signed word, and if it is none, as an unsigned one.  Each step is stated here
  without the function that does it:

    * `Text.Trimmed` says of two texts that the second is the first without its blanks;
    * `Numeral.Writes` is the grammar of the integers, with the number that a text writes;
    * `Coercion.ReadsAs` joins the two and adds the range, which is that of both words together.

  The seam between the words is in `Coercion.readInteger?_eq_some_iff`.  What the signed reader
  refuses although it is in range lies beyond the signed words, so it has no minus sign and the
  unsigned reader takes it.
-/
import Mathlib.Data.List.TakeWhile
import Mathlib.Data.Nat.Digits.Defs
import ValueTypes.Proofs.Build
import ValueTypes.Proofs.Installation

namespace ValueTypes

/-! ## Blanks around a text -/

namespace Text

/-- The second text is the first without the blanks at both ends. -/
structure Trimmed (cs ds : List Char) : Prop where
  around : ∃ a b, cs = a ++ ds ++ b ∧ (∀ c ∈ a, isBlank c = true) ∧ ∀ c ∈ b, isBlank c = true
  first : ∀ c, ds.head? = some c → isBlank c = false
  last : ∀ c, ds.getLast? = some c → isBlank c = false

theorem not_isBlank_of_head?_dropWhile {cs : List Char} {c : Char}
    (h : (cs.dropWhile isBlank).head? = some c) : isBlank c = false := by
  have hhead := List.head?_dropWhile_not isBlank cs
  rw [h] at hhead
  exact hhead

theorem dropWhile_blanks_eq_self {ds : List Char} (h : ∀ c, ds.head? = some c → isBlank c = false) :
    ds.dropWhile isBlank = ds := by
  cases ds with
  | nil => rfl
  | cons d ds =>
    have hd : isBlank d = false := h d rfl
    rw [List.dropWhile_cons, hd]
    rfl

/-- What is cut off at the end are blanks. -/
theorem exists_eq_trimEnd_append (cs : List Char) :
    ∃ b, cs = trimEnd cs ++ b ∧ ∀ c ∈ b, isBlank c = true := by
  refine ⟨(cs.reverse.takeWhile isBlank).reverse, ?_, ?_⟩
  · rw [trimEnd, ← List.reverse_append, List.takeWhile_append_dropWhile, List.reverse_reverse]
  · intro c hc
    exact List.mem_takeWhile_imp (List.mem_reverse.1 hc)

/-- Trimming takes blanks off both ends, and none are left there. -/
theorem trim_trimmed (cs : List Char) : Trimmed cs (trim cs) := by
  obtain ⟨b, hb, hblank⟩ := exists_eq_trimEnd_append (cs.dropWhile isBlank)
  refine ⟨⟨cs.takeWhile isBlank, b, ?_, ?_, hblank⟩, ?_, ?_⟩
  · rw [trim, List.append_assoc, ← hb, List.takeWhile_append_dropWhile]
  · intro c hc
    exact List.mem_takeWhile_imp hc
  · intro c hc
    -- the first character that is left is not changed by cutting at the end
    have hfront : (cs.dropWhile isBlank).head? = some c := by
      rw [hb, List.head?_append]
      rw [trim] at hc
      rw [hc]
      rfl
    exact not_isBlank_of_head?_dropWhile hfront
  · intro c hc
    rw [trim, trimEnd, List.getLast?_reverse] at hc
    exact not_isBlank_of_head?_dropWhile hc

/-- There is one way to cut the blanks off, and that is trimming. -/
theorem trimmed_iff {cs ds : List Char} : Trimmed cs ds ↔ trim cs = ds := by
  constructor
  · rintro ⟨⟨a, b, rfl, ha, hb⟩, hfirst, hlast⟩
    by_cases hne : ds = []
    · subst hne
      have hblank : ∀ c ∈ a ++ [] ++ b, isBlank c = true := by
        intro c hc
        rw [List.append_nil, List.mem_append] at hc
        exact hc.elim (ha c) (hb c)
      rw [trim, List.dropWhile_eq_nil_iff.2 hblank]
      rfl
    · have hend : trimEnd ds = ds := by
        have hreverse : ds.reverse.dropWhile isBlank = ds.reverse := by
          refine dropWhile_blanks_eq_self ?_
          intro c hc
          rw [List.head?_reverse] at hc
          exact hlast c hc
        rw [trimEnd, hreverse, List.reverse_reverse]
      exact trim_blank_append ha hb (dropWhile_blanks_eq_self hfirst) hend hne
  · rintro rfl
    exact trim_trimmed cs

end Text

/-! ## Decimal integers -/

namespace Numeral

/-- One or more ASCII digits. -/
structure Digits (ds : List Char) : Prop where
  nonempty : ds ≠ []
  digit : ∀ c ∈ ds, c.isDigit = true

/-- The number that decimal digits write, of which the last one counts ones. -/
def value (ds : List Char) : Nat := Nat.ofDigits 10 (ds.reverse.map Text.digitValue)

/-- The text writes the integer: an optional sign, and digits. -/
inductive Writes : List Char → Int → Prop where
  | unsigned {ds : List Char} (h : Digits ds) : Writes ds (value ds)
  | plus {ds : List Char} (h : Digits ds) : Writes ('+' :: ds) (value ds)
  | minus {ds : List Char} (h : Digits ds) : Writes ('-' :: ds) (-(value ds : Int))

/-- Reading on from the left is the sum of the places. -/
theorem readDigits_eq_value (ds : List Char) : Text.readDigits 0 ds = value ds := by
  rw [value, Nat.ofDigits_eq_foldr, List.foldr_map, List.foldr_reverse, Text.readDigits]
  congr 1
  funext n c
  exact Nat.add_comm _ _

/-- A text starts with a minus sign, with a plus sign, or with neither. -/
theorem splitSign_cases (cs : List Char) :
    (∃ ds, cs = '-' :: ds ∧ splitSign cs = (true, ds)) ∨
      (∃ ds, cs = '+' :: ds ∧ splitSign cs = (false, ds)) ∨ splitSign cs = (false, cs) := by
  unfold splitSign
  split
  · exact .inl ⟨_, rfl, rfl⟩
  · exact .inr (.inl ⟨_, rfl, rfl⟩)
  · exact .inr (.inr rfl)

/-- Digits have no sign in front. -/
theorem Digits.splitSign {ds : List Char} (h : Digits ds) :
    Numeral.splitSign ds = (false, ds) := by
  rcases splitSign_cases ds with ⟨ds, rfl, -⟩ | ⟨ds, rfl, -⟩ | hsplit
  · exact absurd (h.digit _ List.mem_cons_self) (by decide)
  · exact absurd (h.digit _ List.mem_cons_self) (by decide)
  · exact hsplit

/-- A natural number is read from digits, and from nothing else. -/
theorem readNat?_eq_some_iff {ds : List Char} {m : Nat} :
    readNat? ds = some m ↔ Digits ds ∧ value ds = m := by
  have hdigits : (ds ≠ [] ∧ ds.all Char.isDigit = true) ↔ Digits ds := by
    rw [List.all_eq_true]
    exact ⟨fun h => ⟨h.1, h.2⟩, fun h => ⟨h.1, h.2⟩⟩
  rw [readNat?, readDigits_eq_value]
  by_cases h : Digits ds
  · rw [if_pos (hdigits.2 h)]
    simp [h]
  · rw [if_neg (mt hdigits.1 h)]
    simp [h]

/-- What is read after a sign that is known. -/
theorem readInt?_of_splitSign {cs ds : List Char} {negative : Bool} {n : Int}
    (h : splitSign cs = (negative, ds)) :
    readInt? cs = some n ↔ Digits ds ∧ (if negative then -(value ds : Int) else value ds) = n := by
  have hmap : readInt? cs
      = (readNat? ds).map fun m : Nat => if negative then -(m : Int) else m := by
    rw [readInt?, h]
    show Option.map _ ((readNat? ds).bind fun m => some (m : Int)) = _
    cases readNat? ds <;> rfl
  rw [hmap, Option.map_eq_some_iff]
  constructor
  · rintro ⟨m, hm, rfl⟩
    obtain ⟨hdigits, rfl⟩ := readNat?_eq_some_iff.1 hm
    exact ⟨hdigits, rfl⟩
  · rintro ⟨hdigits, rfl⟩
    exact ⟨value ds, readNat?_eq_some_iff.2 ⟨hdigits, rfl⟩, rfl⟩

/-- The reader of integers accepts the grammar. -/
theorem readInt?_eq_some_iff {cs : List Char} {n : Int} : readInt? cs = some n ↔ Writes cs n := by
  constructor
  · intro h
    rcases splitSign_cases cs with ⟨ds, rfl, hsplit⟩ | ⟨ds, rfl, hsplit⟩ | hsplit
    · obtain ⟨hdigits, rfl⟩ := (readInt?_of_splitSign hsplit).1 h
      exact .minus hdigits
    · obtain ⟨hdigits, rfl⟩ := (readInt?_of_splitSign hsplit).1 h
      exact .plus hdigits
    · obtain ⟨hdigits, rfl⟩ := (readInt?_of_splitSign hsplit).1 h
      exact .unsigned hdigits
  · intro h
    cases h with
    | unsigned h => exact (readInt?_of_splitSign h.splitSign).2 ⟨h, rfl⟩
    | plus h => exact (readInt?_of_splitSign rfl).2 ⟨h, rfl⟩
    | minus h => exact (readInt?_of_splitSign rfl).2 ⟨h, rfl⟩

/-- A text writes one integer. -/
theorem Writes.unique {cs : List Char} {m n : Int} (hm : Writes cs m) (hn : Writes cs n) :
    m = n := by
  rw [← readInt?_eq_some_iff] at hm hn
  exact Option.some.inj (hm.symm.trans hn)

/-- A minus sign is in front of what is not positive, any other text writes a natural number. -/
theorem Writes.sign {cs : List Char} {n : Int} (h : Writes cs n) :
    ((splitSign cs).1 = true ∧ n ≤ 0) ∨ ((splitSign cs).1 = false ∧ 0 ≤ n) := by
  cases h with
  | unsigned h =>
    rw [h.splitSign]
    exact .inr ⟨rfl, Int.natCast_nonneg _⟩
  | plus h => exact .inr ⟨rfl, Int.natCast_nonneg _⟩
  | minus h => exact .inl ⟨rfl, by omega⟩

/-- A signed number is read exactly from what writes it, if it fits. -/
theorem readSigned?_eq_some_iff {cs : List Char} {n : Int} :
    readSigned? cs = some n ↔ Writes cs n ∧ fitsSigned n = true := by
  rw [readSigned?, Option.filter_eq_some_iff, readInt?_eq_some_iff]

/-- Of the unsigned words only zero may be written with a minus sign, and that is not read. -/
theorem readUnsigned?_eq_some_iff {cs : List Char} {n : Int} :
    readUnsigned? cs = some n ↔
      (splitSign cs).1 = false ∧ Writes cs n ∧ fitsUnsigned n = true := by
  rw [readUnsigned?]
  cases (splitSign cs).1 with
  | true => simp
  | false => simp [Option.filter_eq_some_iff, readInt?_eq_some_iff]

end Numeral

/-! ## Integers in range -/

namespace Coercion

/-- Without the blanks around it the text writes the integer, which fits a word of 64 bits, signed
    or unsigned. -/
def ReadsAs (s : String) (n : Int) : Prop :=
  ∃ ds, Text.Trimmed s.toList ds ∧ Numeral.Writes ds n ∧ -2 ^ 63 ≤ n ∧ n < 2 ^ 64

/-- The two readers, one after the other, read what the grammar and the range allow. -/
theorem readInteger?_eq_some_iff {s : String} {n : Int} :
    readInteger? s = some n ↔ ReadsAs s n := by
  have htrim : ReadsAs s n ↔
      Numeral.Writes (Text.trim s.toList) n ∧ -2 ^ 63 ≤ n ∧ n < 2 ^ 64 := by
    simp only [ReadsAs, Text.trimmed_iff, exists_eq_left']
  rw [htrim, readInteger?]
  generalize Text.trim s.toList = cs
  cases hsigned : Numeral.readSigned? cs with
  | some m =>
    obtain ⟨hm, hfits⟩ := Numeral.readSigned?_eq_some_iff.1 hsigned
    have hrange := fitsSigned_iff.1 hfits
    show some m = some n ↔ _
    constructor
    · intro h
      cases h
      exact ⟨hm, by omega, by omega⟩
    · rintro ⟨hn, -, -⟩
      rw [hm.unique hn]
  | none =>
    show Numeral.readUnsigned? cs = some n ↔ _
    rw [Numeral.readUnsigned?_eq_some_iff, fitsUnsigned_iff]
    constructor
    · rintro ⟨-, hn, hlow, hhigh⟩
      exact ⟨hn, by omega, by omega⟩
    · rintro ⟨hn, hlow, hhigh⟩
      -- the signed reader left it, so it is beyond the signed words
      have hlarge : ¬(-9223372036854775808 ≤ n ∧ n < 9223372036854775808) := by
        intro hrange
        have hread := Numeral.readSigned?_eq_some_iff.2 ⟨hn, fitsSigned_iff.2 hrange⟩
        rw [hsigned] at hread
        cases hread
      rcases hn.sign with ⟨-, hneg⟩ | ⟨hplain, -⟩
      · omega
      · exact ⟨hplain, hn, by omega, by omega⟩

/-- Reading fails exactly if the text stands for no integer. -/
theorem readInteger?_eq_none_iff {s : String} : readInteger? s = none ↔ ¬∃ n, ReadsAs s n := by
  simp only [Option.eq_none_iff_forall_not_mem, Option.mem_def, readInteger?_eq_some_iff,
    not_exists]

end Coercion

/-! ## The type -/

namespace Builtins

variable {σ : Type} [StepMeaning σ]

/-- **Texts of integers**: the integer type that converts takes exactly the decimal integers in
    range, with blanks around them, and gives the integer that is written.  It refuses any other
    text as it was, and leaves integers alone. -/
theorem coercible_integer_texts (optional : Bool) (r : Registry σ) (next : Nat) :
    ∃ t : Ty σ,
      (install ⟨optional, true⟩ r next).1.bindings.get? "coercible.integer" = some (.type t) ∧
      (∀ s w, t.build (.str s) = .ok w ↔ ∃ n, Coercion.ReadsAs s n ∧ w = .int n) ∧
      (∀ s e, t.build (.str s) = .error e ↔
        (¬∃ n, Coercion.ReadsAs s n) ∧ e = .invalidValue none (.str s) "integer") ∧
      ∀ n, t.build (.int n) = .ok (.int n) := by
  obtain ⟨serial, hbound⟩ := exists_get?_install_coercible optional r next .toInteger
  have hreading : ∀ s,
      (∀ w, (coercible serial .toInteger : Ty σ).build (.str s) = .ok w ↔
        ∃ n, Coercion.readInteger? s = some n ∧ w = .int n) ∧
      ∀ e, (coercible serial .toInteger : Ty σ).build (.str s) = .error e ↔
        Coercion.readInteger? s = none ∧ e = .invalidValue none (.str s) "integer" := by
    intro s
    refine build_coercible_of_reading serial (fun _ => rfl) ?_ ?_
    · intro n hn
      rw [Coercion.apply, hn]
    · intro hnone
      rw [Coercion.apply, hnone]
  simp only [Coercion.readInteger?_eq_some_iff, Coercion.readInteger?_eq_none_iff] at hreading
  refine ⟨coercible serial .toInteger, hbound, fun s => (hreading s).1, fun s => (hreading s).2, ?_⟩
  intro n
  rw [build_coercible]
  rfl

/-- A sign and zeros in front are read, and any blank around them is cut off. -/
example : (coercible 0 .toInteger : Ty Empty).build (.str "\u00a0-007\n") = .ok (.int (-7)) := rfl

end Builtins

end ValueTypes
