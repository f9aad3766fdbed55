import Mathlib.Algebra.Order.Field.Rat
import Mathlib.Algebra.Order.GroupWithZero.Basic
import Mathlib.Tactic.Ring
import RaceFarm.Proofs.Binary64.Basin

namespace RaceFarm.Binary64

def Decimal.value (d : Decimal) : ℚ := d.digits * 10 ^ d.exponent

/-- The value in quarters of a least unit. -/
def Decimal.quarters (d : Decimal) : ℚ := 4 * unit * d.value

theorem spacing_eq (exponent : Int) :
    ((spacing exponent).1 : ℚ) = 4 * unit * 10 ^ exponent * (spacing exponent).2 := by
  have shifted : (10 : ℚ) ^ exponent * 10 ^ (-exponent).toNat = 10 ^ exponent.toNat := by
    rw [← zpow_natCast, ← zpow_natCast, ← zpow_add₀ (by decide)]
    congr 1
    omega
  simp only [spacing, Nat.pow_eq]
  push_cast
  rw [mul_assoc, shifted, mul_comm]

theorem spacing_den_pos (exponent : Int) : (0 : ℚ) < (spacing exponent).2 := by
  simp [spacing]

theorem Basin.holds_iff (b : Basin) (d : Decimal) :
    b.holds (d.digits * (spacing d.exponent).1) (spacing d.exponent).2 = true ↔
      b.Contains d.quarters := by
  have den := spacing_den_pos d.exponent
  have point : ((d.digits * (spacing d.exponent).1 : Nat) : ℚ) =
      d.quarters * (spacing d.exponent).2 := by
    rw [Nat.cast_mul, spacing_eq, Decimal.quarters, Decimal.value]
    ring
  have scaled : ∀ n : Nat,
      ((n * (spacing d.exponent).2 : Nat) : ℚ) = n * (spacing d.exponent).2 :=
    fun n => Nat.cast_mul n _
  rw [holds, Contains]
  split
  · rw [Bool.and_eq_true, decide_eq_true_eq, decide_eq_true_eq, ← @Nat.cast_le ℚ,
      ← @Nat.cast_le ℚ, point, scaled, scaled, mul_le_mul_iff_left₀ den,
      mul_le_mul_iff_left₀ den]
  · rw [Bool.and_eq_true, decide_eq_true_eq, decide_eq_true_eq, ← @Nat.cast_lt ℚ,
      ← @Nat.cast_lt ℚ, point, scaled, scaled, mul_lt_mul_iff_left₀ den,
      mul_lt_mul_iff_left₀ den]

theorem holds_of_gridPoint {tie : Tie} {b : Basin} {exponent : Int} {digits : Nat}
    (found : gridPoint tie b exponent = some digits) :
    b.holds (digits * (spacing exponent).1) (spacing exponent).2 = true := by
  simp only [gridPoint] at found
  split at found
  · cases found
  · rename_i below _
    cases found
    exact below
  · rename_i _ above
    cases found
    exact above
  · rename_i below above
    split at found
    · cases found; exact below
    · split at found
      · cases found; exact above
      · split at found
        · cases found; exact below
        · cases found; exact above

theorem exists_gridPoint {b : Basin} {exponent : Int}
    (above : b.holds ((b.value * (spacing exponent).2 / (spacing exponent).1 + 1) *
      (spacing exponent).1) (spacing exponent).2 = true) (tie : Tie) :
    ∃ digits, gridPoint tie b exponent = some digits := by
  simp only [gridPoint]
  split
  · simp_all
  · exact ⟨_, rfl⟩
  · exact ⟨_, rfl⟩
  · split
    · exact ⟨_, rfl⟩
    · split
      · exact ⟨_, rfl⟩
      · split <;> exact ⟨_, rfl⟩

/-- The first multiple above the value lies below the next midpoint, if multiples are no further
    apart than a quarter of the least unit. -/
theorem holds_above {ordinal : Nat} {num den : Nat} (positive : 0 < num) (fine : num ≤ den) :
    (basin ordinal).holds (((basin ordinal).value * den / num + 1) * num) den = true := by
  have wide := basin_value_between ordinal
  generalize basin ordinal = b at wide
  have split := Nat.div_add_mod (b.value * den) num
  have small := Nat.mod_lt (b.value * den) positive
  have point : (b.value * den / num + 1) * num = num * (b.value * den / num) + num := by
    rw [Nat.add_mul, Nat.one_mul, Nat.mul_comm]
  have low : b.low * den ≤ b.value * den := Nat.mul_le_mul_right den wide.1
  have high : b.value * den + 2 * den ≤ b.high * den := by
    rw [← Nat.add_mul]
    exact Nat.mul_le_mul_right den wide.2
  rw [point, Basin.holds]
  split
  · rw [Bool.and_eq_true, decide_eq_true_eq, decide_eq_true_eq]
    omega
  · rw [Bool.and_eq_true, decide_eq_true_eq, decide_eq_true_eq]
    omega

theorem spacing_finest : 0 < (spacing (-324)).1 ∧ (spacing (-324)).1 ≤ (spacing (-324)).2 := by
  decide +kernel

theorem finest_mem_exponents : -324 ∈ exponents := by
  rw [exponents, List.mem_map]
  exact ⟨633, List.mem_range.2 (by decide), rfl⟩

theorem shortest_found (tie : Tie) (ordinal : Nat) :
    gridPoint tie (basin ordinal) (shortest tie ordinal).exponent =
      some (shortest tie ordinal).digits := by
  obtain ⟨digits, finest⟩ :=
    exists_gridPoint (b := basin ordinal) (holds_above spacing_finest.1 spacing_finest.2) tie
  simp only [shortest]
  cases found : exponents.findSome? fun exponent =>
      (gridPoint tie (basin ordinal) exponent).map fun digits => Decimal.mk digits exponent with
  | none =>
    have missed := List.findSome?_eq_none_iff.1 found (-324) finest_mem_exponents
    rw [finest] at missed
    cases missed
  | some d =>
    obtain ⟨exponent, -, hit⟩ := List.exists_of_findSome?_eq_some found
    obtain ⟨digits, here, rfl⟩ := Option.map_eq_some_iff.1 hit
    exact here

theorem shortest_contained (tie : Tie) (ordinal : Nat) :
    (basin ordinal).Contains (shortest tie ordinal).quarters := by
  rw [← Basin.holds_iff]
  exact holds_of_gridPoint (shortest_found tie ordinal)

end RaceFarm.Binary64
