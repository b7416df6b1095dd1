import ApiMock.Proofs.Number.Double
import ApiMock.Value.Number

/-!
# Integers that meet doubles

As a double, an integer keeps its sign and its first 53 bits. So two integers are equal as they are,
and an integer and a double if rounding the integer gives the value of the double.
-/

set_option autoImplicit false

namespace ApiMock

namespace Double

/-! ## Rounded quotients -/

section

variable {n d : Nat}

theorem divideToEven_eq (n d : Nat) :
    divideToEven n d = n / d ∨ divideToEven n d = n / d + 1 := by
  unfold divideToEven
  dsimp only
  split
  · exact .inl rfl
  · split
    · exact .inr rfl
    · omega

/-- The quotient is rounded to the nearest integer, and to the even one of two that are as near. -/
theorem divideToEven_nearest (positive : 0 < d) :
    2 * n ≤ 2 * (divideToEven n d * d) + d ∧ 2 * (divideToEven n d * d) ≤ 2 * n + d ∧
      (2 * n = 2 * (divideToEven n d * d) + d ∨ 2 * (divideToEven n d * d) = 2 * n + d →
        divideToEven n d % 2 = 0) := by
  have whole := Nat.div_add_mod' n d
  have rest := Nat.mod_lt n positive
  unfold divideToEven
  dsimp only
  split
  · omega
  · split
    · rw [Nat.add_mul]
      omega
    · rcases Nat.mod_two_eq_zero_or_one (n / d) with even | odd
      · rw [even, Nat.add_zero]
        omega
      · rw [odd, Nat.add_mul]
        omega

end

/-- How many least positive doubles make one. -/
def unitsInOne : Nat := 1 <<< 1074

/-- An integer with its first 53 bits. -/
def rounded (n : Nat) : Nat := divideToEven n (2 ^ (n.log2 - 52)) * 2 ^ (n.log2 - 52)

variable {n : Nat}

theorem rounded_of_lt (small : n < 2 ^ 53) : rounded n = n := by
  have few : n.log2 - 52 = 0 := by
    rcases Nat.eq_zero_or_pos n with rfl | positive
    · decide
    · have := (Nat.log2_lt (Nat.ne_of_gt positive)).mpr small
      omega
  rw [rounded, few, Nat.pow_zero, Nat.mul_one, divideToEven_one]

theorem rounded_of_le (small : n ≤ 2 ^ 53) : rounded n = n := by
  obtain below | rfl := Nat.lt_or_eq_of_le small
  · exact rounded_of_lt below
  · decide +kernel

theorem rounded_ne_zero (positive : n ≠ 0) : rounded n ≠ 0 := by
  have unit : 2 ^ (n.log2 - 52) ≤ n :=
    Nat.le_trans (Nat.pow_le_pow_right (by decide) (Nat.sub_le _ _)) (Nat.log2_self_le positive)
  have some : 0 < n / 2 ^ (n.log2 - 52) := Nat.div_pos unit (Nat.two_pow_pos _)
  have either := divideToEven_eq n (2 ^ (n.log2 - 52))
  exact Nat.mul_ne_zero (by omega) (Nat.ne_of_gt (Nat.two_pow_pos _))

theorem magnitude_ofSmall (negative : Bool) (positive : n ≠ 0) (small : n < 2 ^ 53) :
    (ofSmall negative n positive small).magnitude = n * unitsInOne := by
  have bits : n.log2 < 53 := (Nat.log2_lt positive).mpr small
  have shift : (-((52 - n.log2 : Nat) : Int) + 1074).toNat = 1074 - (52 - n.log2) := by omega
  change n * 2 ^ (52 - n.log2) * 2 ^ (-((52 - n.log2 : Nat) : Int) + 1074).toNat = _
  rw [shift, Nat.mul_assoc, ← Nat.pow_add, Nat.add_sub_of_le (by omega), unitsInOne,
    Nat.one_shiftLeft]

theorem two_pow_toNat (k : Nat) : 2 ^ ((k : Int) + 1074).toNat = 2 ^ k * unitsInOne := by
  have exponent : ((k : Int) + 1074).toNat = k + 1074 := by omega
  rw [exponent, Nat.pow_add, unitsInOne, Nat.one_shiftLeft]

section

variable {k : Nat} (positive : n ≠ 0) (bits : n.log2 = 53 + k)

include positive bits

theorem mul_two_pow_le_of_log2 : 0x20000000000000 * 2 ^ k ≤ n := by
  change 2 ^ 53 * 2 ^ k ≤ n
  rw [← Nat.pow_add, ← bits]
  exact Nat.log2_self_le positive

/-- An integer of more than 53 bits has 53 bits in front of the last ones. -/
theorem div_two_pow_of_log2 :
    0x10000000000000 ≤ n / 2 ^ (k + 1) ∧ n / 2 ^ (k + 1) < 0x20000000000000 := by
  have low := mul_two_pow_le_of_log2 positive bits
  have high : n < 2 ^ 53 * 2 ^ (k + 1) := by
    rw [← Nat.pow_add, ← Nat.add_assoc, ← bits]
    exact Nat.lt_log2_self
  rw [Nat.le_div_iff_mul_le (Nat.two_pow_pos _), Nat.div_lt_iff_lt_mul (Nat.two_pow_pos _)]
  exact ⟨by rw [Nat.pow_succ]; omega, high⟩

/-- The significand may fill up when it is rounded. Then it is halved. -/
theorem round_one_of_log2 (negative : Bool) :
    round negative n 1 =
      if divideToEven n (2 ^ (k + 1)) = 0x20000000000000
      then ofParts? negative 0x10000000000000 ((k + 2 : Nat) : Int)
      else ofParts? negative (divideToEven n (2 ^ (k + 1))) ((k + 1 : Nat) : Int) := by
  have least : max (-1074) ((n.log2 : Int) - (Nat.log2 1 : Nat) - 53) = (k : Int) := by
    have one : Nat.log2 1 = 0 := by decide
    omega
  have full : ¬ n / 2 ^ k < 0x20000000000000 := by
    rw [Nat.not_lt, Nat.le_div_iff_mul_le (Nat.two_pow_pos k)]
    exact mul_two_pow_le_of_log2 positive bits
  have next : (k : Int) + 1 = ((k + 1 : Nat) : Int) := by omega
  have last : ((k + 1 : Nat) : Int) + 1 = ((k + 2 : Nat) : Int) := by omega
  simp only [round, if_neg positive, least, scaled_neg_natCast, Nat.mul_one]
  rw [if_neg full, next, scaled_neg_natCast, last]

end

theorem exists_round_one_of_le (negative : Bool) (wide : 2 ^ 53 ≤ n) (fits : n < 2 ^ 64) :
    ∃ x, round negative n 1 = some x ∧ x.negative = negative ∧
      x.magnitude = rounded n * unitsInOne := by
  have positive : n ≠ 0 := by omega
  have few : n.log2 < 64 := (Nat.log2_lt positive).mpr fits
  obtain ⟨k, bits⟩ := Nat.exists_eq_add_of_le ((Nat.le_log2 positive).mpr wide)
  have kept : rounded n = divideToEven n (2 ^ (k + 1)) * 2 ^ (k + 1) := by
    have unit : n.log2 - 52 = k + 1 := by omega
    rw [rounded, unit]
  have ⟨enough, narrow⟩ := div_two_pow_of_log2 positive bits
  have either := divideToEven_eq n (2 ^ (k + 1))
  rw [round_one_of_log2 positive bits, kept]
  split
  case isTrue carried =>
    rw [ofParts?, dif_pos ⟨by decide, by omega, by omega, by omega⟩]
    refine ⟨_, rfl, rfl, ?_⟩
    change 0x10000000000000 * 2 ^ (((k + 2 : Nat) : Int) + 1074).toNat = _
    rw [carried, two_pow_toNat, ← Nat.mul_assoc, Nat.pow_succ 2 (k + 1)]
    congr 1
    omega
  case isFalse short =>
    rw [ofParts?, dif_pos ⟨by omega, by omega, by omega, by omega⟩]
    refine ⟨_, rfl, rfl, ?_⟩
    rw [magnitude, two_pow_toNat, Nat.mul_assoc]

/-- An integer as a double keeps the sign and 53 bits. -/
theorem exists_ofInt (v : Int) (fits : Number.FitsWord v) :
    ∃ x, ofInt v = some x ∧ x.negative = decide (v < 0) ∧
      x.magnitude = rounded v.natAbs * unitsInOne := by
  have word : v.natAbs < 2 ^ 64 := by
    obtain ⟨low, high⟩ := fits
    omega
  by_cases zero : v = 0
  · subst zero
    exact ⟨zero false, rfl, rfl, by simp [magnitude, Double.zero, rounded_of_lt]⟩
  have positive : v.natAbs ≠ 0 := Int.natAbs_ne_zero.mpr zero
  by_cases small : v.natAbs < 2 ^ 53
  · refine ⟨_, round_one _ positive small, rfl, ?_⟩
    rw [magnitude_ofSmall, rounded_of_lt small]
  · exact exists_round_one_of_le _ (Nat.not_lt.mp small) word

end Double

namespace Number

/-- The number as a multiple of the least positive double, as it is compared with a double. -/
def roundedUnits : Number → Int
  | integer v _ => v.sign * (Double.rounded v.natAbs * Double.unitsInOne : Nat)
  | double x => x.units

/-- Numbers whose comparison does not round: where an integer meets a double, it is at most
`2 ^ 53`. -/
def ComparedExactly : Number → Number → Prop
  | integer v _, double _ => v.natAbs ≤ 2 ^ 53
  | double _, integer v _ => v.natAbs ≤ 2 ^ 53
  | _, _ => True

theorem units_eq_of_ofInt {v : Int} {fits : FitsWord v} {x : Double}
    (read : Double.ofInt v = some x) : x.units = (integer v fits).roundedUnits := by
  obtain ⟨y, same, sign, magnitude⟩ := Double.exists_ofInt v fits
  cases read.symm.trans same
  rw [Double.units_eq, sign, magnitude, roundedUnits]
  obtain negative | rfl | positive := Int.lt_trichotomy v 0
  · simp [negative, Int.sign_eq_neg_one_of_neg]
  · simp [Double.rounded_of_lt]
  · simp [Int.not_lt.mpr (Int.le_of_lt positive), Int.sign_eq_one_of_pos positive]

theorem exists_toDouble? (n : Number) : ∃ x, n.toDouble? = some x ∧ x.units = n.roundedUnits := by
  cases n with
  | integer v fits =>
      obtain ⟨x, read, _⟩ := Double.exists_ofInt v fits
      exact ⟨x, read, units_eq_of_ofInt read⟩
  | double x => exact ⟨x, rfl, rfl⟩

/-- Only a comparison with a double rounds. -/
theorem eqv_iff (m n : Number) :
    m.eqv n = true ↔
      match m, n with
      | integer v _, integer w _ => v = w
      | m, n => m.roundedUnits = n.roundedUnits := by
  obtain ⟨x, left, leftUnits⟩ := exists_toDouble? m
  obtain ⟨y, right, rightUnits⟩ := exists_toDouble? n
  cases m <;> cases n
  case integer.integer => exact beq_iff_eq
  all_goals
    dsimp only
    rw [← leftUnits, ← rightUnits]
    simp only [eqv, left, right, Double.eqv, beq_iff_eq]

theorem roundedUnits_of_le {v : Int} {fits : FitsWord v} (small : v.natAbs ≤ 2 ^ 53) :
    (integer v fits).roundedUnits = (integer v fits).units := by
  rw [roundedUnits, Double.rounded_of_le small, Int.natCast_mul, ← Int.mul_assoc,
    Int.sign_mul_natAbs]
  rfl

theorem eqv_iff_units_eq {m n : Number} (exactly : ComparedExactly m n) :
    m.eqv n = true ↔ m.units = n.units := by
  rw [eqv_iff]
  cases m with
  | integer v fits =>
      cases n with
      | integer w others =>
          have some : (Double.unitsInOne : Int) ≠ 0 := by decide +kernel
          exact (mul_left_inj' some).symm
      | double y =>
          dsimp only
          rw [roundedUnits_of_le exactly]
          rfl
  | double x =>
      cases n with
      | integer w others =>
          dsimp only
          rw [roundedUnits_of_le exactly]
          rfl
      | double y => rfl

end Number

end ApiMock
