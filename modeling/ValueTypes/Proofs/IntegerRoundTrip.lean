/-
  Integers survive a trip through text.

  The text type that converts prints an integer, and the integer type that converts reads it back.
  Printing and reading are separate: the printer takes the sign from the number and the digits from
  its magnitude, and the reader tries two words, one after the other.  They meet in the grammar of
  `Proofs/IntegerTexts`:

    * what is printed writes the number (`Json.writeInt_writes`), because the digits of a natural
      number have it as their value (`Numeral.value_digits`);
    * a text that writes a number starts and ends with no blank, so the blanks around it are cut off
      and nothing else is (`Numeral.Writes.trimmed`).

  The seam between the words does not show here: `Coercion.ReadsAs` has the range of both.
-/
import ValueTypes.Proofs.IntegerTexts

namespace ValueTypes

/-! ## Printing -/

namespace Numeral

/-- The decimal digits of a natural number are one digit at least. -/
theorem digits_digits (n : Nat) : Digits (Text.digits n) := by
  refine ⟨Nat.toDigits_ne_nil, ?_⟩
  intro c hc
  exact Nat.isDigit_of_mem_toDigits (by decide) (by decide) hc

/-- The digits of a natural number write it. -/
theorem value_digits (n : Nat) : value (Text.digits n) = n := by
  have hread : Text.readDigits 0 (Text.digits n) = Nat.ofDigitChars 10 (Text.digits n) 0 := rfl
  rw [← readDigits_eq_value, hread]
  exact Nat.ofDigitChars_ten_toDigits

end Numeral

/-- **Printing**: the text of an integer writes it. -/
theorem Json.writeInt_writes (n : Int) : Numeral.Writes (writeInt n) n := by
  have hdigits := Numeral.digits_digits n.natAbs
  have hvalue := Numeral.value_digits n.natAbs
  rw [writeInt]
  by_cases hn : n < 0
  · rw [if_pos hn]
    have hneg : -(Numeral.value (Text.digits n.natAbs) : Int) = n := by omega
    have hwrites := Numeral.Writes.minus hdigits
    rwa [hneg] at hwrites
  · rw [if_neg hn]
    have hpos : (Numeral.value (Text.digits n.natAbs) : Int) = n := by omega
    have hwrites := Numeral.Writes.unsigned hdigits
    rwa [hpos] at hwrites

/-! ## Blanks around a number -/

/-- No digit is a blank. -/
theorem Text.not_isBlank_of_isDigit {c : Char} (h : c.isDigit = true) : isBlank c = false := by
  obtain ⟨hlow, hhigh⟩ := Char.isDigit_iff_toNat.1 h
  exact CharSet.not_contains_of_between (by decide) hlow hhigh

namespace Numeral

/-- A text that writes an integer is made of signs and digits. -/
theorem Writes.not_isBlank {cs : List Char} {n : Int} (h : Writes cs n) {c : Char} (hc : c ∈ cs) :
    Text.isBlank c = false := by
  have hdigits : ∀ {ds}, Digits ds → c ∈ ds → Text.isBlank c = false :=
    fun hds hmem => Text.not_isBlank_of_isDigit (hds.digit c hmem)
  cases h with
  | unsigned hds => exact hdigits hds hc
  | plus hds =>
    rcases List.mem_cons.1 hc with rfl | hmem
    · decide
    · exact hdigits hds hmem
  | minus hds =>
    rcases List.mem_cons.1 hc with rfl | hmem
    · decide
    · exact hdigits hds hmem

/-- Blanks around a text that writes an integer are all that is cut off. -/
theorem Writes.trimmed {a cs b : List Char} {n : Int} (h : Writes cs n)
    (ha : ∀ c ∈ a, Text.isBlank c = true) (hb : ∀ c ∈ b, Text.isBlank c = true) :
    Text.Trimmed (a ++ cs ++ b) cs := by
  refine ⟨⟨a, b, rfl, ha, hb⟩, ?_, ?_⟩
  · intro c hc
    exact h.not_isBlank (List.mem_of_mem_head? hc)
  · intro c hc
    exact h.not_isBlank (List.mem_of_getLast? hc)

end Numeral

/-- The text of an integer in range is read as the integer, with blanks around it. -/
theorem Coercion.readsAs_writeInt {n : Int} (hlow : -2 ^ 63 ≤ n) (hhigh : n < 2 ^ 64) {a b : String}
    (ha : ∀ c ∈ a.toList, Text.isBlank c = true) (hb : ∀ c ∈ b.toList, Text.isBlank c = true) :
    ReadsAs (a ++ String.ofList (Json.writeInt n) ++ b) n := by
  have hwrites := Json.writeInt_writes n
  refine ⟨Json.writeInt n, ?_, hwrites, hlow, hhigh⟩
  rw [String.toList_append, String.toList_append, String.toList_ofList]
  exact hwrites.trimmed ha hb

/-! ## Main result -/

namespace Builtins

variable {σ : Type} [StepMeaning σ]

/-- **Integers survive a trip through text**: the text type that converts makes a text of every
    integer, and of this text, with blanks around it, the integer type that converts makes the
    integer again, if it fits a word of 64 bits, signed or unsigned. -/
theorem integers_survive_text (optional : Bool) (r : Registry σ) (next : Nat) :
    ∃ text integer : Ty σ,
      (install ⟨optional, true⟩ r next).1.bindings.get? "coercible.string" = some (.type text) ∧
      (install ⟨optional, true⟩ r next).1.bindings.get? "coercible.integer"
        = some (.type integer) ∧
      ∀ n : Int, ∃ s, text.build (.int n) = .ok (.str s) ∧
        (-2 ^ 63 ≤ n → n < 2 ^ 64 → ∀ a b : String,
          (∀ c ∈ a.toList, Text.isBlank c = true) → (∀ c ∈ b.toList, Text.isBlank c = true) →
            integer.build (.str (a ++ s ++ b)) = .ok (.int n)) := by
  obtain ⟨i, htext⟩ := exists_get?_install_coercible optional r next .toText
  obtain ⟨j, hinteger⟩ := exists_get?_install_coercible optional r next .toInteger
  refine ⟨coercible i .toText, coercible j .toInteger, htext, hinteger, ?_⟩
  intro n
  refine ⟨String.ofList (Json.writeInt n), ?_, ?_⟩
  · rw [build_coercible]
    rfl
  · intro hlow hhigh a b ha hb
    have hread := Coercion.readInteger?_eq_some_iff.2 (Coercion.readsAs_writeInt hlow hhigh ha hb)
    rw [build_coercible, Coercion.apply, hread]
    rfl

/-- The least and the greatest integer, with wide blanks around their texts. -/
theorem integers_survive_text_at_ends :
    ∃ text integer : Ty Empty,
      (install .all .empty 0).1.bindings.get? "coercible.string" = some (.type text) ∧
      (install .all .empty 0).1.bindings.get? "coercible.integer" = some (.type integer) ∧
      (∃ s, text.build (.int (-9223372036854775808)) = .ok (.str s) ∧
        integer.build (.str ("\u3000" ++ s ++ "\n"))
          = .ok (.int (-9223372036854775808))) ∧
      ∃ s, text.build (.int 18446744073709551615) = .ok (.str s) ∧
        integer.build (.str ("\u2003\t" ++ s ++ ""))
          = .ok (.int 18446744073709551615) := by
  obtain ⟨text, integer, htext, hinteger, htrip⟩ :=
    integers_survive_text (σ := Empty) true .empty 0
  obtain ⟨least, hleast, hback⟩ := htrip (-9223372036854775808)
  obtain ⟨greatest, hgreatest, hback'⟩ := htrip 18446744073709551615
  -- `decide` is asked of the list, so that it does not run over all characters
  have hblank : ∀ {s : String}, s.toList.all Text.isBlank = true →
      ∀ c ∈ s.toList, Text.isBlank c = true := fun h => List.all_eq_true.1 h
  refine ⟨text, integer, htext, hinteger, ⟨least, hleast, ?_⟩, ⟨greatest, hgreatest, ?_⟩⟩
  · exact hback (by decide) (by decide) "\u3000" "\n" (hblank (by decide)) (hblank (by decide))
  · exact hback' (by decide) (by decide) "\u2003\t" "" (hblank (by decide)) (hblank (by decide))

end Builtins

end ValueTypes
