/-
  Sets of characters given by ranges of code points, the form in which the properties of
  characters are listed.

  `CharSet.contains` is the membership test; `contains_iff` reads it as "some range of the list
  holds the code point", and `not_contains_of_between` rules a whole stretch of code points out.
-/

namespace ValueTypes.Text

/-- A set of characters: the closed ranges of their code points, in no required order. -/
structure CharSet where
  ranges : List (Nat × Nat)

namespace CharSet

/-- Whether some range of the set holds the code point of `c`. -/
def contains (s : CharSet) (c : Char) : Bool :=
  s.ranges.any fun r => decide (r.1 ≤ c.toNat) && decide (c.toNat ≤ r.2)

/-- A character is in the set if it lies in one of its ranges. -/
theorem contains_iff {s : CharSet} {c : Char} :
    s.contains c = true ↔ ∃ r ∈ s.ranges, r.1 ≤ c.toNat ∧ c.toNat ≤ r.2 := by
  simp [contains]

/-- No character between two code points is in a set whose ranges lie outside of them. -/
theorem not_contains_of_between {s : CharSet} {lo hi : Nat}
    (hout : ∀ r ∈ s.ranges, r.2 < lo ∨ hi < r.1) {c : Char} (hlo : lo ≤ c.toNat)
    (hhi : c.toNat ≤ hi) : s.contains c = false := by
  refine Bool.eq_false_iff.2 ?_
  intro hc
  obtain ⟨r, hr, hfrom, hto⟩ := contains_iff.1 hc
  have := hout r hr
  omega

end CharSet

end ValueTypes.Text
