/-
  White space, and texts with the white space at both ends cut off.

  The set is the property White_Space: it has the no-break space, the next-line control and the
  ideographic space, but neither the zero-width space nor the byte order mark.  Main fact:
  `trim_blank_append` (blanks around a text that neither starts nor ends with one are cut off).
-/
import ValueTypes.Text.CharSet

namespace ValueTypes.Text

/-- The characters with the property White_Space. -/
def blanks : CharSet := ⟨[
  (0x9, 0xD), (0x20, 0x20), (0x85, 0x85), (0xA0, 0xA0), (0x1680, 0x1680), (0x2000, 0x200A),
  (0x2028, 0x2029), (0x202F, 0x202F), (0x205F, 0x205F), (0x3000, 0x3000)]⟩

def isBlank (c : Char) : Bool := blanks.contains c

/-- The text without the blanks at its end. -/
def trimEnd (cs : List Char) : List Char := (cs.reverse.dropWhile isBlank).reverse

/-- The text without the blanks at its start and at its end. -/
def trim (cs : List Char) : List Char := trimEnd (cs.dropWhile isBlank)

/-- Blanks in front are dropped first. -/
theorem dropWhile_blanks_append {a s : List Char} (ha : ∀ c ∈ a, isBlank c = true) :
    (a ++ s).dropWhile isBlank = s.dropWhile isBlank := by
  induction a with
  | nil => rfl
  | cons c a ih =>
    simp only [List.cons_append, List.dropWhile_cons, ha c (by simp), if_true]
    exact ih fun d hd => ha d (by simp [hd])

/-- Blanks put around a text that starts and ends with other characters are cut off again. -/
theorem trim_blank_append {a s b : List Char} (ha : ∀ c ∈ a, isBlank c = true)
    (hb : ∀ c ∈ b, isBlank c = true) (hs : s.dropWhile isBlank = s) (he : trimEnd s = s)
    (hne : s ≠ []) : trim (a ++ s ++ b) = s := by
  have hfront : (s ++ b).dropWhile isBlank = s ++ b := by
    cases s with
    | nil => exact absurd rfl hne
    | cons c s =>
      have hc : isBlank c = false := by
        cases h : isBlank c with
        | false => rfl
        | true =>
          rw [List.dropWhile_cons, if_pos h] at hs
          have := (List.dropWhile_sublist isBlank (l := s)).length_le
          rw [hs, List.length_cons] at this
          omega
      simp [hc]
  rw [trim, List.append_assoc, dropWhile_blanks_append ha, hfront, trimEnd, List.reverse_append,
    dropWhile_blanks_append (fun c hc => hb c (List.mem_reverse.1 hc))]
  exact he

end ValueTypes.Text
