/-
  Which doubles are integers.

  A double is an exact rational number (`Double.toRat`), given by its fields as the format has it.
  The program counts in units of 2^(-1074) instead, of which `unitsPerOne` make one, and
  `signedUnits_eq` says that the two agree.  From it follow, in terms of the number itself:

    * the order is that of the numbers (`le_iff`, `lt_iff`);
    * a double is whole, and its truncation is the integer `n`, exactly if the number is `n`
      (`isWhole_and_truncate_iff`).

  The bounds of the conversion are the doubles nearest to the ends of the signed words.  The lower
  one is exact, the upper one is `2 ^ 63`, one more than the greatest word (`toRat_maxSigned`), so
  the comparison with it must be strict.  Between them the truncation fits a word and the clamping
  changes nothing (`Coercion.wholeInteger?_eq_some_iff`).
-/
import Mathlib.Algebra.Order.Field.Rat
import Mathlib.Algebra.Order.Ring.Rat
import Mathlib.Tactic.FieldSimp
import Mathlib.Tactic.NormNum
import Mathlib.Tactic.Ring
import ValueTypes.Proofs.Installation

namespace ValueTypes

namespace Double

/-! ## The number -/

/-- The number without its sign: the fraction follows a one, or a zero at the least exponent. -/
def magnitude (x : Double) : ℚ :=
  if x.exponent.val = 0 then x.fraction.val / 2 ^ 52 * 2 ^ (-1022 : ℤ)
  else (1 + x.fraction.val / 2 ^ 52) * 2 ^ ((x.exponent.val : ℤ) - 1023)

/-- The exact number that a double is. -/
def toRat (x : Double) : ℚ := if x.negative then -x.magnitude else x.magnitude

theorem cast_pow2 (k : ℕ) : (pow2 k : ℚ) = 2 ^ (k : ℤ) := by
  rw [pow2, Nat.pow_eq, Nat.cast_pow, Nat.cast_ofNat, zpow_natCast]

theorem unitsPerOne_eq : (unitsPerOne : ℚ) = 2 ^ (1074 : ℤ) := cast_pow2 1074

theorem unitsPerOne_pos : (0 : ℚ) < unitsPerOne := Nat.cast_pos.2 (pow2_pos 1074)

/-- The units of a magnitude. -/
theorem units_eq (x : Double) : (x.units : ℚ) = x.magnitude * unitsPerOne := by
  have htwo : (2 : ℚ) ≠ 0 := two_ne_zero
  rw [units, significand, shift, magnitude, Nat.cast_mul, cast_pow2, unitsPerOne_eq]
  by_cases h : x.exponent.val = 0
  · have hscale : (2 : ℚ) ^ (-1022 : ℤ) * 2 ^ (1074 : ℤ) = 2 ^ 52 := by
      rw [← zpow_add₀ htwo]
      norm_num
    rw [if_pos h, if_pos h, h, mul_assoc, hscale]
    field_simp
    simp
  · have hscale : (2 : ℚ) ^ ((x.exponent.val : ℤ) - 1023) * 2 ^ (1074 : ℤ)
        = 2 ^ (52 : ℤ) * 2 ^ ((x.exponent.val - 1 : ℕ) : ℤ) := by
      have hsum : (x.exponent.val : ℤ) - 1023 + 1074
          = 52 + ((x.exponent.val - 1 : ℕ) : ℤ) := by omega
      rw [← zpow_add₀ htwo, ← zpow_add₀ htwo, hsum]
    have hfractions : (fractions : ℚ) = 2 ^ 52 := by norm_num [fractions]
    rw [if_neg h, if_neg h, mul_assoc, hscale, Nat.cast_add, hfractions]
    field_simp

/-- The units of the number. -/
theorem signedUnits_eq (x : Double) : (x.signedUnits : ℚ) = x.toRat * unitsPerOne := by
  rw [signedUnits, toRat]
  cases x.negative with
  | true =>
    simp only [if_true, Int.cast_neg, Int.cast_natCast, units_eq]
    ring
  | false =>
    simp only [Bool.false_eq_true, if_false, Int.cast_natCast, units_eq]

/-! ## Order -/

/-- Doubles are compared as the rationals that they stand for. -/
theorem le_iff {x y : Double} : x.le y = true ↔ x.toRat ≤ y.toRat := by
  rw [le, decide_eq_true_iff, ← Int.cast_le (R := ℚ), signedUnits_eq, signedUnits_eq,
    mul_le_mul_iff_left₀ unitsPerOne_pos]

theorem lt_iff {x y : Double} : x.lt y = true ↔ x.toRat < y.toRat := by
  rw [lt, decide_eq_true_iff, ← Int.cast_lt (R := ℚ), signedUnits_eq, signedUnits_eq,
    mul_lt_mul_iff_left₀ unitsPerOne_pos]

/-! ## Whole numbers -/

/-- A multiple of a positive number is found by dividing. -/
theorem natCast_eq_mul_iff {m k : ℕ} (hk : 0 < k) {n : ℤ} :
    (m : ℤ) = n * k ↔ m % k = 0 ∧ ((m / k : ℕ) : ℤ) = n := by
  have hk' : (k : ℤ) ≠ 0 := by omega
  constructor
  · intro h
    have hdvd : k ∣ m := Int.natCast_dvd_natCast.1 ⟨n, by rw [h, mul_comm]⟩
    refine ⟨Nat.mod_eq_zero_of_dvd hdvd, ?_⟩
    rw [Int.natCast_div, h, Int.mul_ediv_cancel n hk']
  · rintro ⟨hmod, rfl⟩
    have hdvd : k ∣ m := Nat.dvd_of_mod_eq_zero hmod
    rw [← Nat.cast_mul, Nat.div_mul_cancel hdvd]

/-- A whole number of units is the truncation of a whole number. -/
theorem isWhole_and_truncate_iff {x : Double} {n : ℤ} :
    x.isWhole = true ∧ x.truncate = n ↔ x.toRat = n := by
  have hunits : x.toRat = n ↔ x.signedUnits = n * unitsPerOne := by
    rw [← Int.cast_inj (α := ℚ), signedUnits_eq, Int.cast_mul, Int.cast_natCast,
      mul_left_inj' unitsPerOne_pos.ne']
  have hpos : 0 < unitsPerOne := pow2_pos 1074
  rw [hunits, isWhole, beq_iff_eq, truncate, signedUnits]
  cases x.negative with
  | true =>
    have hneg : -(x.units : ℤ) = n * unitsPerOne ↔ (x.units : ℤ) = -n * unitsPerOne := by
      rw [neg_mul, neg_eq_iff_eq_neg]
    simp only [if_true, hneg, natCast_eq_mul_iff hpos, neg_eq_iff_eq_neg]
  | false => simp only [Bool.false_eq_true, if_false, natCast_eq_mul_iff hpos]

/-! ## The bounds -/

theorem magnitude_bound (negative : Bool) : magnitude ⟨negative, 1086, 0⟩ = 2 ^ 63 := by
  have hexponent : ¬(1086 : Fin 2047).val = 0 := by decide
  rw [magnitude, if_neg hexponent]
  show (1 + ((0 : ℕ) : ℚ) / 2 ^ 52) * 2 ^ (((1086 : ℕ) : ℤ) - 1023) = 2 ^ 63
  norm_num

theorem toRat_minSigned : (ofWord minSigned).toRat = -2 ^ 63 := by
  have hword : ofWord minSigned = ⟨true, 1086, 0⟩ := by decide +kernel
  rw [hword, toRat, if_pos rfl, magnitude_bound]

/-- The greatest signed word is rounded up. -/
theorem toRat_maxSigned : (ofWord maxSigned).toRat = 2 ^ 63 := by
  have hword : ofWord maxSigned = ⟨false, 1086, 0⟩ := by decide +kernel
  rw [hword, toRat, if_neg Bool.false_ne_true, magnitude_bound]

/-- The double is the integer, which fits a signed word of 64 bits. -/
structure IsWord (x : Double) (n : ℤ) : Prop where
  whole : x.toRat = n
  low : -2 ^ 63 ≤ x.toRat
  high : x.toRat < 2 ^ 63

end Double

namespace Coercion

/-- The guard lets through the integers that fit a word, and they are not changed. -/
theorem wholeInteger?_eq_some_iff {x : Double} {n : ℤ} :
    wholeInteger? x = some n ↔ x.IsWord n := by
  have hguard : (x.isWhole && (Double.ofWord minSigned).le x && x.lt (Double.ofWord maxSigned))
      = true ↔ x.isWhole = true ∧ -2 ^ 63 ≤ x.toRat ∧ x.toRat < 2 ^ 63 := by
    rw [Bool.and_eq_true, Bool.and_eq_true, Double.le_iff, Double.lt_iff,
      Double.toRat_minSigned, Double.toRat_maxSigned, and_assoc]
  -- an integer between the bounds is not clamped
  have hclamp : ∀ m : ℤ, x.toRat = m → -2 ^ 63 ≤ x.toRat → x.toRat < 2 ^ 63 →
      clampSigned m = m := by
    intro m hm hlow hhigh
    rw [hm] at hlow hhigh
    have hlow' : -2 ^ 63 ≤ m := by exact_mod_cast hlow
    have hhigh' : m < 2 ^ 63 := by exact_mod_cast hhigh
    refine clampSigned_of_fits (fitsSigned_iff.2 ⟨?_, ?_⟩)
    · omega
    · omega
  rw [wholeInteger?, Option.ite_none_right_eq_some, hguard, Option.some.injEq]
  constructor
  · rintro ⟨⟨hwhole, hlow, hhigh⟩, hn⟩
    have htrunc : x.toRat = x.truncate := Double.isWhole_and_truncate_iff.1 ⟨hwhole, rfl⟩
    rw [hclamp _ htrunc hlow hhigh] at hn
    rw [hn] at htrunc
    exact ⟨htrunc, hlow, hhigh⟩
  · rintro ⟨hn, hlow, hhigh⟩
    obtain ⟨hwhole, htrunc⟩ := Double.isWhole_and_truncate_iff.2 hn
    refine ⟨⟨hwhole, hlow, hhigh⟩, ?_⟩
    rw [htrunc, hclamp n hn hlow hhigh]

/-- A double gives no integer when it is no word. -/
theorem wholeInteger?_eq_none_iff {x : Double} :
    wholeInteger? x = none ↔ ¬∃ n, x.IsWord n := by
  simp only [Option.eq_none_iff_forall_not_mem, Option.mem_def, wholeInteger?_eq_some_iff,
    not_exists]

end Coercion

/-! ## The type -/

namespace Builtins

variable {σ : Type} [StepMeaning σ]

/-- **Doubles that are integers**: the integer type that converts takes a double exactly if it is a
    whole number that fits a signed word, and gives that number.  It refuses any other double, and
    neither rounds nor cuts it down to a word. -/
theorem coercible_integer_doubles (optional : Bool) (r : Registry σ) (next : Nat) :
    ∃ t : Ty σ,
      (install ⟨optional, true⟩ r next).1.bindings.get? "coercible.integer" = some (.type t) ∧
      (∀ x w, t.build (.float x) = .ok w ↔ ∃ n, x.IsWord n ∧ w = .int n) ∧
      (∀ x e, t.build (.float x) = .error e ↔
        (¬∃ n, x.IsWord n) ∧ e = .invalidValue none (.float x) "integer") ∧
      ∀ negative, t.build (.float (.zero negative)) = .ok (.int 0) := by
  obtain ⟨serial, hbound⟩ := exists_get?_install_coercible optional r next .toInteger
  have hreading : ∀ x,
      (∀ w, (coercible serial .toInteger : Ty σ).build (.float x) = .ok w ↔
        ∃ n, Coercion.wholeInteger? x = some n ∧ w = .int n) ∧
      ∀ e, (coercible serial .toInteger : Ty σ).build (.float x) = .error e ↔
        Coercion.wholeInteger? x = none ∧ e = .invalidValue none (.float x) "integer" := by
    intro x
    refine build_coercible_of_reading serial (fun _ => rfl) ?_ ?_
    · intro n hn
      rw [Coercion.apply, hn]
    · intro hnone
      rw [Coercion.apply, hnone]
  simp only [Coercion.wholeInteger?_eq_some_iff, Coercion.wholeInteger?_eq_none_iff] at hreading
  refine ⟨coercible serial .toInteger, hbound, fun x => (hreading x).1, fun x => (hreading x).2, ?_⟩
  intro negative
  have hzero : (Double.zero negative).toRat = 0 := by
    cases negative <;> simp [Double.toRat, Double.magnitude, Double.zero]
  refine ((hreading _).1 _).2 ⟨0, ⟨?_, ?_, ?_⟩, rfl⟩
  all_goals rw [hzero]
  all_goals norm_num

/-- The upper bound is refused; the double before it is the greatest that is taken. -/
example : (Coercion.wholeInteger? ⟨false, 1086, 0⟩,
    Coercion.wholeInteger? ⟨false, 1085, 4503599627370495⟩) = (none, some 9223372036854774784) := by
  decide +kernel

end Builtins

end ValueTypes
