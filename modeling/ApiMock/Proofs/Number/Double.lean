import ApiMock.Number.Double
import Mathlib.Tactic.Ring

/-!
# Doubles and the integers they hold

A magnitude has one significand and one exponent, so that a double other than zero is determined by
its value. An integer below `2 ^ 53` is a double as it stands: its significand is moved up to 53 bits
and nothing is rounded.
-/

set_option autoImplicit false

namespace ApiMock.Double

/-! ## Values determine doubles -/

/-- The magnitude as a multiple of the least positive double. -/
def magnitude (x : Double) : Nat := x.significand * 2 ^ (x.exponent + 1074).toNat

theorem units_eq (x : Double) :
    x.units = if x.negative then -(x.magnitude : Int) else x.magnitude := by
  simp only [units, magnitude, Nat.shiftLeft_eq]

theorem magnitude_eq_zero_iff {x : Double} : x.magnitude = 0 ↔ x.significand = 0 := by
  simp [magnitude]

theorem magnitude_lt_of_exponent_lt {x y : Double} (less : x.exponent < y.exponent) :
    x.magnitude < y.magnitude := by
  obtain ⟨narrow, least, -, -⟩ := x.canonical
  obtain ⟨-, -, -, full⟩ := y.canonical
  have wide : 2 ^ 52 ≤ y.significand := by
    by_contra short
    have := full (by omega)
    omega
  have apart : (x.exponent + 1074).toNat + 1 ≤ (y.exponent + 1074).toNat := by omega
  calc x.magnitude
      < 2 ^ 53 * 2 ^ (x.exponent + 1074).toNat :=
        Nat.mul_lt_mul_of_pos_right narrow (Nat.two_pow_pos _)
    _ = 2 ^ 52 * 2 ^ ((x.exponent + 1074).toNat + 1) := by ring
    _ ≤ y.magnitude := Nat.mul_le_mul wide (Nat.pow_le_pow_right (by decide) apart)

theorem exponent_eq_of_magnitude_eq {x y : Double} (same : x.magnitude = y.magnitude) :
    x.exponent = y.exponent := by
  obtain less | equal | greater := Int.lt_trichotomy x.exponent y.exponent
  · exact absurd same (Nat.ne_of_lt (magnitude_lt_of_exponent_lt less))
  · exact equal
  · exact absurd same (Nat.ne_of_gt (magnitude_lt_of_exponent_lt greater))

theorem significand_eq_of_magnitude_eq {x y : Double} (same : x.magnitude = y.magnitude) :
    x.significand = y.significand := by
  have exponents := exponent_eq_of_magnitude_eq same
  rw [magnitude, magnitude, exponents] at same
  exact Nat.eq_of_mul_eq_mul_right (Nat.two_pow_pos _) same

theorem magnitude_eq_of_units_eq {x y : Double} (same : x.units = y.units) :
    x.magnitude = y.magnitude := by
  rw [units_eq, units_eq] at same
  split at same <;> split at same <;> omega

theorem significand_eq_zero_iff_of_units_eq {x y : Double} (same : x.units = y.units) :
    x.significand = 0 ↔ y.significand = 0 := by
  rw [← magnitude_eq_zero_iff, ← magnitude_eq_zero_iff, magnitude_eq_of_units_eq same]

/-- Only zero has two signs. -/
theorem eq_of_units_eq {x y : Double} (same : x.units = y.units) (nonzero : x.significand ≠ 0) :
    x = y := by
  have magnitudes := magnitude_eq_of_units_eq same
  have positive : x.magnitude ≠ 0 := by
    intro zero
    exact nonzero (magnitude_eq_zero_iff.mp zero)
  have signs : x.negative = y.negative := by
    rw [units_eq, units_eq, ← magnitudes] at same
    split at same <;> split at same
    · simp_all
    · omega
    · omega
    · simp_all
  have significands := significand_eq_of_magnitude_eq magnitudes
  have exponents := exponent_eq_of_magnitude_eq magnitudes
  cases x
  cases y
  cases signs
  cases significands
  cases exponents
  rfl

/-! ## Small integers -/

section Small

variable {n : Nat}

theorem le_shifted (positive : n ≠ 0) (small : n < 2 ^ 53) : 2 ^ 52 ≤ n * 2 ^ (52 - n.log2) := by
  have bits : n.log2 < 53 := (Nat.log2_lt positive).mpr small
  calc 2 ^ 52 = 2 ^ n.log2 * 2 ^ (52 - n.log2) := by rw [← Nat.pow_add, Nat.add_sub_of_le (by omega)]
    _ ≤ n * 2 ^ (52 - n.log2) := Nat.mul_le_mul_right _ (Nat.log2_self_le positive)

theorem shifted_lt (positive : n ≠ 0) (small : n < 2 ^ 53) : n * 2 ^ (52 - n.log2) < 2 ^ 53 := by
  have bits : n.log2 < 53 := (Nat.log2_lt positive).mpr small
  calc n * 2 ^ (52 - n.log2)
      < 2 ^ (n.log2 + 1) * 2 ^ (52 - n.log2) :=
        Nat.mul_lt_mul_of_pos_right Nat.lt_log2_self (Nat.two_pow_pos _)
    _ = 2 ^ 53 := by
        rw [← Nat.pow_add]
        congr 1
        omega

theorem canonical_shifted (positive : n ≠ 0) (small : n < 2 ^ 53) :
    Canonical (n * 2 ^ (52 - n.log2)) (-((52 - n.log2 : Nat) : Int)) := by
  refine ⟨shifted_lt positive small, by omega, by omega, ?_⟩
  intro short
  exact absurd (le_shifted positive small) (Nat.not_le_of_lt short)

/-- An integer below `2 ^ 53` with a sign, as a double. -/
def ofSmall (negative : Bool) (n : Nat) (positive : n ≠ 0) (small : n < 2 ^ 53) : Double :=
  ⟨negative, n * 2 ^ (52 - n.log2), -((52 - n.log2 : Nat) : Int),
    canonical_shifted positive small⟩

theorem ofSmall_significand_ne_zero (negative : Bool) (positive : n ≠ 0) (small : n < 2 ^ 53) :
    (ofSmall negative n positive small).significand ≠ 0 :=
  Nat.mul_ne_zero positive (Nat.ne_of_gt (Nat.two_pow_pos _))

theorem scaled_natCast (n k : Nat) : scaled n k = (n * 2 ^ k, 1) := by
  rw [scaled, if_pos (Int.natCast_nonneg k), Int.toNat_natCast, Nat.shiftLeft_eq]

theorem scaled_neg_natCast (n k : Nat) : scaled n (-(k : Int)) = (n, 2 ^ k) := by
  obtain rfl | positive := Nat.eq_zero_or_pos k
  · simp [scaled]
  · rw [scaled, if_neg (by omega), Int.neg_neg, Int.toNat_natCast, Nat.one_shiftLeft]

theorem divideToEven_one (n : Nat) : divideToEven n 1 = n := by
  simp [divideToEven, Nat.mod_one]

theorem round_one (negative : Bool) (positive : n ≠ 0) (small : n < 2 ^ 53) :
    round negative n 1 = some (ofSmall negative n positive small) := by
  have bits : n.log2 < 53 := (Nat.log2_lt positive).mpr small
  have least : max (-1074) ((n.log2 : Int) - (Nat.log2 1 : Nat) - 53) =
      -((53 - n.log2 : Nat) : Int) := by
    have one : Nat.log2 1 = 0 := by decide
    omega
  have next : -((53 - n.log2 : Nat) : Int) + 1 = -((52 - n.log2 : Nat) : Int) := by omega
  have wide : ¬ n * 2 ^ (53 - n.log2) < 0x20000000000000 := by
    have low := le_shifted positive small
    rw [Nat.succ_sub (by omega), Nat.pow_succ, ← Nat.mul_assoc]
    omega
  have narrow : n * 2 ^ (52 - n.log2) ≠ 0x20000000000000 :=
    Nat.ne_of_lt (shifted_lt positive small)
  simp only [round, if_neg positive, least, Int.neg_neg, scaled_natCast, Nat.mul_one, Nat.div_one]
  rw [if_neg wide, next, Int.neg_neg, scaled_natCast, divideToEven_one, if_neg narrow,
    ofParts?, dif_pos (canonical_shifted positive small)]
  rfl

end Small

end ApiMock.Double
