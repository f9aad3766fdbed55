import Mathlib.Algebra.Order.Ring.Rat
import Mathlib.Data.Nat.Cast.Order.Basic
import Mathlib.Order.Monotone.Basic
import RaceFarm.Binary64.Shortest

namespace RaceFarm.Binary64

/-- From one double to the next, either the significand grows by one, or it is full and the next
    binade begins. -/
theorem scale_succ_cases (ordinal : Nat) :
    (scale (ordinal + 1) = scale ordinal ∧
      significand (ordinal + 1) = significand ordinal + 1 ∧
      ¬((ordinal + 1) % binade = 0 ∧ 0 < scale (ordinal + 1))) ∨
    (scale (ordinal + 1) = scale ordinal + 1 ∧ significand (ordinal + 1) = binade ∧
      significand ordinal + 1 = 2 * binade ∧ (ordinal + 1) % binade = 0) := by
  have size : binade = 0x10000000000000 := rfl
  simp only [scale, significand]
  by_cases full : (ordinal + 1) % binade = 0
  · by_cases first : ordinal < binade
    · left
      rw [if_pos first]
      rw [size] at *
      split <;> omega
    · right
      rw [if_neg first, if_neg (by omega)]
      rw [size] at *
      omega
  · left
    by_cases first : ordinal < binade
    · rw [if_pos first, if_pos (by rw [size] at *; omega)]
      rw [size] at *
      omega
    · rw [if_neg first, if_neg (by omega)]
      rw [size] at *
      omega

theorem units_succ (ordinal : Nat) : units (ordinal + 1) = units ordinal + 2 ^ scale ordinal := by
  simp only [units, Nat.pow_eq]
  rcases scale_succ_cases ordinal with ⟨scaled, grown, -⟩ | ⟨scaled, first, last, -⟩
  · rw [scaled, grown, Nat.succ_mul]
  · calc significand (ordinal + 1) * 2 ^ scale (ordinal + 1)
        = 2 * binade * 2 ^ scale ordinal := by
          rw [scaled, first, Nat.pow_succ, Nat.mul_comm (2 ^ _) 2, ← Nat.mul_assoc,
            Nat.mul_comm binade 2]
      _ = significand ordinal * 2 ^ scale ordinal + 2 ^ scale ordinal := by
          rw [← last, Nat.succ_mul]

theorem basin_high (ordinal : Nat) : (basin ordinal).high = (basin (ordinal + 1)).low := by
  simp only [basin, units_succ, Nat.pow_eq]
  rcases scale_succ_cases ordinal with ⟨scaled, -, same⟩ | ⟨scaled, -, -, full⟩
  · rw [if_neg same, scaled]
    omega
  · rw [if_pos ⟨full, by omega⟩, scaled, Nat.pow_succ]
    omega

theorem basin_value_between (ordinal : Nat) :
    (basin ordinal).low ≤ (basin ordinal).value ∧
      (basin ordinal).value + 2 ≤ (basin ordinal).high := by
  have gap : 0 < 2 ^ scale ordinal := Nat.two_pow_pos _
  simp only [basin, Nat.pow_eq]
  omega

theorem basin_low_strictMono : StrictMono fun ordinal => (basin ordinal).low := by
  apply strictMono_nat_of_lt_succ
  intro ordinal
  have wide := basin_value_between ordinal
  rw [← basin_high]
  omega

/-- The reals of a basin, in quarters of a least unit. -/
def Basin.Contains (b : Basin) (x : ℚ) : Prop :=
  if b.closed then b.low ≤ x ∧ x ≤ b.high else b.low < x ∧ x < b.high

namespace Basin.Contains

variable {b : Basin} {x : ℚ}

theorem bounds (inside : b.Contains x) : b.low ≤ x ∧ x ≤ b.high := by
  unfold Contains at inside
  split at inside
  · exact inside
  · exact ⟨inside.1.le, inside.2.le⟩

theorem closed_of_eq_low (inside : b.Contains x) (edge : x = b.low) : b.closed = true := by
  by_contra open_
  rw [Contains, if_neg open_] at inside
  exact inside.1.ne edge.symm

theorem closed_of_eq_high (inside : b.Contains x) (edge : x = b.high) : b.closed = true := by
  by_contra open_
  rw [Contains, if_neg open_] at inside
  exact inside.2.ne edge

end Basin.Contains

theorem not_contains_of_lt {lower upper : Nat} (below : lower < upper) {x : ℚ}
    (inside : (basin lower).Contains x) : ¬(basin upper).Contains x := by
  intro inside'
  have high : x ≤ (basin (lower + 1)).low := by
    rw [← basin_high]
    exact inside.bounds.2
  have low : ((basin upper).low : ℚ) ≤ x := inside'.bounds.1
  have ordered : (basin (lower + 1)).low ≤ (basin upper).low :=
    basin_low_strictMono.monotone below
  have ordered' : ((basin (lower + 1)).low : ℚ) ≤ (basin upper).low := by exact_mod_cast ordered
  -- Only the common end of two neighbours could lie in both, but one of them is without its ends.
  have edge : x = (basin (lower + 1)).low := le_antisymm high (ordered'.trans low)
  have edge' : x = (basin upper).low := le_antisymm (high.trans ordered') low
  have adjacent : lower + 1 = upper := by
    apply basin_low_strictMono.injective
    have same : ((basin (lower + 1)).low : ℚ) = (basin upper).low := edge.symm.trans edge'
    exact_mod_cast same
  have even : (basin lower).closed = true := inside.closed_of_eq_high (by rw [basin_high, edge])
  have even' : (basin upper).closed = true := inside'.closed_of_eq_low edge'
  simp only [basin, decide_eq_true_eq] at even even'
  omega

/-- A real rounds to one double only. -/
theorem ordinal_unique {ordinal ordinal' : Nat} {x : ℚ} (inside : (basin ordinal).Contains x)
    (inside' : (basin ordinal').Contains x) : ordinal = ordinal' := by
  rcases Nat.lt_trichotomy ordinal ordinal' with below | same | above
  · exact absurd inside' (not_contains_of_lt below inside)
  · exact same
  · exact absurd inside (not_contains_of_lt above inside')

end RaceFarm.Binary64
