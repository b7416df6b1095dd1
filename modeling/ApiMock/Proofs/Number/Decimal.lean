import ApiMock.Number.Shortest
import ApiMock.Proofs.Number.Double
import Mathlib.Data.Nat.Digits.Defs

/-!
# Shortest decimals of small integers

What rounds to an integer below `2 ^ 53` is nearer to it than any other integer. So a decimal on a
grid of whole numbers can stand for it only by being the integer itself, and the search for the
shortest one ends at the latest with all of its digits.
-/

set_option autoImplicit false

namespace ApiMock

namespace Decimal

theorem trim_eq (c : Nat) (e : Int) (fuel : Nat) :
    ∃ (d zeros : Nat), trim c e fuel = ⟨d, e + zeros⟩ ∧ d * 10 ^ zeros = c := by
  induction fuel generalizing c e with
  | zero => exact ⟨c, 0, by simp [trim], by simp⟩
  | succ fuel ih =>
      by_cases round : c % 10 = 0
      · obtain ⟨d, zeros, trimmed, whole⟩ := ih (c / 10) (e + 1)
        refine ⟨d, zeros + 1, ?_, ?_⟩
        · rw [trim, if_pos round, trimmed]
          congr 1
          omega
        · rw [Nat.pow_succ, ← Nat.mul_assoc, whole]
          omega
      · exact ⟨c, 0, by simp [trim, round], by simp⟩

namespace Interval

theorem contains_of_lt {i : Interval} {x : Nat} (low : i.low < x) (high : x < i.high) :
    i.contains x = true := by
  unfold contains
  split <;> simp <;> omega

theorem not_contains_of_lt {i : Interval} {x : Nat} (below : x < i.low) : i.contains x = false := by
  unfold contains
  split <;> simp <;> omega

theorem not_contains_of_gt {i : Interval} {x : Nat} (above : i.high < x) :
    i.contains x = false := by
  unfold contains
  split <;> simp <;> omega

/-- In an interval that is narrower than the grid, a multiple can only be the value itself. -/
theorem nearest?_eq {i : Interval} {unit n k : Nat} (tie : DecimalTie) (coarse : 4 ≤ unit)
    (value : i.value = n * unit) (low : i.low < i.value) (near : i.value ≤ i.low + 2)
    (high : i.high = i.value + 2) :
    i.nearest? tie (10 ^ k * unit) = if 10 ^ k ∣ n then some (n / 10 ^ k) else none := by
  have positive : 0 < 10 ^ k := Nat.pow_pos (by decide)
  have below : i.value / (10 ^ k * unit) = n / 10 ^ k := by
    rw [value, Nat.mul_div_mul_right _ _ (by omega)]
  have next : i.contains ((n / 10 ^ k + 1) * (10 ^ k * unit)) = false := by
    apply not_contains_of_gt
    have beyond : n + 1 ≤ (n / 10 ^ k + 1) * 10 ^ k := by
      rw [Nat.add_mul, Nat.one_mul]
      exact Nat.lt_div_mul_add positive
    calc i.high < (n + 1) * unit := by rw [high, value, Nat.add_mul]; omega
      _ ≤ (n / 10 ^ k + 1) * (10 ^ k * unit) := by
        rw [← Nat.mul_assoc]
        exact Nat.mul_le_mul_right unit beyond
  simp only [nearest?, below, next]
  by_cases divides : 10 ^ k ∣ n
  · have here : i.contains (n / 10 ^ k * (10 ^ k * unit)) = true := by
      rw [← Nat.mul_assoc, Nat.div_mul_cancel divides, ← value]
      exact contains_of_lt low (by omega)
    rw [here, if_pos divides]
  · have short : i.contains (n / 10 ^ k * (10 ^ k * unit)) = false := by
      apply not_contains_of_lt
      have less : n / 10 ^ k * 10 ^ k + 1 ≤ n := by
        have remainder := Nat.div_add_mod' n (10 ^ k)
        have some : n % 10 ^ k ≠ 0 := by
          intro whole
          exact divides (Nat.dvd_of_mod_eq_zero whole)
        omega
      have scaled := Nat.mul_le_mul_right unit less
      rw [Nat.add_mul, Nat.mul_assoc, ← value] at scaled
      omega
    rw [short, if_neg divides]

end Interval

theorem leadingExponent_mul {n unit : Nat} (positive : n ≠ 0) (some : 0 < unit) :
    leadingExponent (n * unit) unit = (digitCount n : Int) - 1 := by
  rw [leadingExponent, if_pos (Nat.le_mul_of_pos_left unit (Nat.pos_of_ne_zero positive)),
    Nat.mul_div_cancel n some]

theorem exists_findSome?_range {α : Type} {f : Nat → Option α} {g : Nat → α} {bound n : Nat}
    (last : Nat) (otherwise : α) (within : last < bound)
    (grid : ∀ i ≤ last, f i = if 10 ^ (last - i) ∣ n then some (g (last - i)) else none) :
    ∃ k, 10 ^ k ∣ n ∧ ((List.range bound).findSome? f).getD otherwise = g k := by
  have found : ((List.range (last + 1)).findSome? f).isSome = true := by
    rw [List.findSome?_isSome_iff]
    refine ⟨last, by simp, ?_⟩
    rw [grid last (Nat.le_refl last)]
    simp
  obtain ⟨a, first⟩ := Option.isSome_iff_exists.mp found
  obtain ⟨i, member, here⟩ := List.exists_of_findSome?_eq_some first
  have early : i ≤ last := by
    rw [List.mem_range] at member
    omega
  rw [grid i early] at here
  split at here
  case isTrue divides =>
    obtain ⟨more, rfl⟩ := Nat.exists_eq_add_of_le within
    refine ⟨last - i, divides, ?_⟩
    rw [List.range_add, List.findSome?_append, first, ← here]
    rfl
  case isFalse => cases here

theorem digitCount_le {n : Nat} (small : n < 2 ^ 53) : digitCount n ≤ 16 := by
  apply Nat.toDigits_length 10 n 16 (by decide)
  omega

/-- The decimal of an integer below `2 ^ 53` is the integer, some of its zeros in the exponent. -/
theorem exists_shortest_ofSmall (tie : DecimalTie) (negative : Bool) {n : Nat} (positive : n ≠ 0)
    (small : n < 2 ^ 53) :
    ∃ k : Nat, 10 ^ k ∣ n ∧ shortest tie (.ofSmall negative n positive small) =
      trim (n / 10 ^ k) k 20 := by
  have few := digitCount_le small
  have some : 0 < digitCount n := List.length_pos_iff.mpr Nat.toDigits_ne_nil
  let shift := 52 - n.log2
  have quarter : (Double.ofSmall negative n positive small).exponent - 2 =
      -((shift + 2 : Nat) : Int) := by
    change -((shift : Nat) : Int) - 2 = _
    omega
  have quarters : 4 * (Double.ofSmall negative n positive small).significand =
      n * 2 ^ (shift + 2) := by
    change 4 * (n * 2 ^ shift) = _
    rw [Nat.pow_add, ← Nat.mul_assoc n, Nat.mul_comm 4]
  simp only [shortest, quarter, quarters, Double.scaled_neg_natCast,
    leadingExponent_mul positive (Nat.two_pow_pos _)]
  refine exists_findSome?_range (digitCount n - 1) _ (by omega) ?_
  intro i early
  have exponent : (digitCount n : Int) - 1 - ((i + 1 : Nat) : Int) + 1 =
      ((digitCount n - 1 - i : Nat) : Int) := by omega
  rw [exponent]
  generalize digitCount n - 1 - i = k
  have whole : ¬ ((k : Nat) : Int) < 0 := Int.not_lt.mpr (Int.natCast_nonneg k)
  have unit : (-((shift + 2 : Nat) : Int)).toNat = 0 := by omega
  have wide : 4 ≤ 2 ^ (shift + 2) := by
    rw [Nat.pow_add]
    exact Nat.le_mul_of_pos_left 4 (Nat.two_pow_pos shift)
  have reach : 4 ≤ n * 2 ^ (shift + 2) :=
    Nat.le_trans wide (Nat.le_mul_of_pos_left _ (Nat.pos_of_ne_zero positive))
  simp only [if_neg whole, unit, Int.neg_neg, Int.toNat_natCast, Int.natAbs_natCast,
    Nat.shiftLeft_eq, Nat.pow_zero, Nat.mul_one, Nat.pow_eq]
  rw [Interval.nearest?_eq tie wide rfl]
  · split <;> rfl
  · split <;> simp only <;> omega
  · split <;> simp only <;> omega
  · rfl

end Decimal

end ApiMock
