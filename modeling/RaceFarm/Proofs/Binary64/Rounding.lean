import Mathlib.Tactic.Ring
import RaceFarm.Proofs.Binary64.Basin

namespace RaceFarm.Binary64

section Integers

variable {num den n : Nat}

theorem le_divHalfEven (positive : 0 < den) (above : n * den ≤ num) : n ≤ divHalfEven num den := by
  have floor : n ≤ num / den := (Nat.le_div_iff_mul_le positive).2 above
  unfold divHalfEven
  split
  · exact floor
  · exact floor.trans (Nat.le_succ _)

theorem divHalfEven_le (positive : 0 < den) (below : num ≤ n * den) : divHalfEven num den ≤ n := by
  have split := Nat.div_add_mod num den
  have floor : num / den ≤ n := Nat.div_le_of_le_mul (by rwa [Nat.mul_comm])
  unfold divHalfEven
  split
  · exact floor
  · rename_i up
    -- Only a quotient that is not whole is rounded up, and then it lies below the next integer.
    rcases floor.lt_or_eq with less | rfl
    · exact less
    · have whole : num % den = 0 := by
        rw [Nat.mul_comm] at below
        omega
      rw [whole] at up
      omega

end Integers

theorem scale_mul_binade_add (ordinal : Nat) :
    scale ordinal * binade + significand ordinal = ordinal := by
  have size : binade = 0x10000000000000 := rfl
  simp only [scale, significand]
  split
  · rw [size] at *
    omega
  · rw [size] at *
    omega

theorem significand_lt (ordinal : Nat) : significand ordinal < 2 * binade := by
  have size : binade = 0x10000000000000 := rfl
  simp only [significand]
  split
  · omega
  · rw [size] at *
    omega

theorem binade_le_significand {ordinal : Nat} (normal : 0 < scale ordinal) :
    binade ≤ significand ordinal := by
  have size : binade = 0x10000000000000 := rfl
  have above : ¬ordinal < binade := by
    intro below
    rw [scale, Nat.div_eq_of_lt below] at normal
    cases normal
  rw [significand, if_neg above]
  exact Nat.le_add_right _ _

theorem units_lt (ordinal : Nat) : units ordinal < 2 ^ (scale ordinal + 53) := by
  have full : 2 * binade = 2 ^ 53 := by decide
  rw [units, Nat.pow_eq, Nat.add_comm, Nat.pow_add, ← full]
  exact Nat.mul_lt_mul_of_pos_right (significand_lt ordinal) (Nat.two_pow_pos _)

theorem le_units {ordinal : Nat} (normal : 0 < scale ordinal) :
    2 ^ (scale ordinal + 52) ≤ units ordinal := by
  have first : binade = 2 ^ 52 := by decide
  rw [units, Nat.pow_eq, Nat.add_comm, Nat.pow_add, ← first]
  exact Nat.mul_le_mul_right _ (binade_le_significand normal)

section Nearest

variable {num den ordinal : Nat}

/-- The exponent to which a quotient is rounded. -/
def roundingScale (num den : Nat) : Nat := (num / den).log2 - 52

theorem nearest_eq (num den : Nat) : nearest num den =
    roundingScale num den * binade + divHalfEven num (den * 2 ^ roundingScale num den) := rfl

theorem lt_of_roundingScale (num den : Nat) : num / den < 2 ^ (roundingScale num den + 53) := by
  have size := Nat.lt_log2_self (n := num / den)
  refine size.trans_le (Nat.pow_le_pow_right (by decide) ?_)
  unfold roundingScale
  omega

theorem le_of_roundingScale (normal : 0 < roundingScale num den) :
    2 ^ (roundingScale num den + 52) ≤ num / den := by
  unfold roundingScale at *
  rw [Nat.sub_add_cancel (by omega)]
  apply Nat.log2_self_le
  intro zero
  simp [zero] at normal

theorem nearest_le (positive : 0 < den) (below : num ≤ units ordinal * den) :
    nearest num den ≤ ordinal := by
  have quotient : num / den ≤ units ordinal := Nat.div_le_of_le_mul (by rwa [Nat.mul_comm])
  have gap : 0 < den * 2 ^ roundingScale num den := Nat.mul_pos positive (Nat.two_pow_pos _)
  have parts := scale_mul_binade_add ordinal
  rw [nearest_eq]
  rcases Nat.lt_trichotomy (roundingScale num den) (scale ordinal) with finer | same | coarser
  · have full : divHalfEven num (den * 2 ^ roundingScale num den) ≤ 2 * binade := by
      apply divHalfEven_le gap
      have wide := lt_of_roundingScale num den
      have bound : num ≤ 2 ^ (roundingScale num den + 53) * den :=
        ((Nat.div_lt_iff_lt_mul positive).1 wide).le
      calc num ≤ 2 ^ (roundingScale num den + 53) * den := bound
        _ = 2 * binade * (den * 2 ^ roundingScale num den) := by
          rw [Nat.pow_add, show 2 * binade = 2 ^ 53 by decide]
          ring
    have first := binade_le_significand (Nat.zero_lt_of_lt finer)
    have next : (roundingScale num den + 1) * binade ≤ scale ordinal * binade :=
      Nat.mul_le_mul_right _ finer
    rw [Nat.add_mul, Nat.one_mul] at next
    omega
  · rw [same] at gap ⊢
    have rounded : divHalfEven num (den * 2 ^ scale ordinal) ≤ significand ordinal := by
      apply divHalfEven_le gap
      rw [units, Nat.pow_eq] at below
      calc num ≤ significand ordinal * 2 ^ scale ordinal * den := below
        _ = significand ordinal * (den * 2 ^ scale ordinal) := by ring
    omega
  · have large := le_of_roundingScale (Nat.zero_lt_of_lt coarser)
    have small := units_lt ordinal
    have powers : 2 ^ (scale ordinal + 53) ≤ 2 ^ (roundingScale num den + 52) :=
      Nat.pow_le_pow_right (by decide) (by omega)
    omega

theorem le_nearest (positive : 0 < den) (above : units ordinal * den ≤ num) :
    ordinal ≤ nearest num den := by
  have quotient : units ordinal ≤ num / den := (Nat.le_div_iff_mul_le positive).2 above
  have gap : 0 < den * 2 ^ roundingScale num den := Nat.mul_pos positive (Nat.two_pow_pos _)
  have parts := scale_mul_binade_add ordinal
  rw [nearest_eq]
  rcases Nat.lt_trichotomy (roundingScale num den) (scale ordinal) with finer | same | coarser
  · have small := lt_of_roundingScale num den
    have large := le_units (Nat.zero_lt_of_lt finer)
    have powers : 2 ^ (roundingScale num den + 53) ≤ 2 ^ (scale ordinal + 52) :=
      Nat.pow_le_pow_right (by decide) (by omega)
    omega
  · rw [same] at gap ⊢
    have rounded : significand ordinal ≤ divHalfEven num (den * 2 ^ scale ordinal) := by
      apply le_divHalfEven gap
      rw [units, Nat.pow_eq] at above
      calc significand ordinal * (den * 2 ^ scale ordinal)
          = significand ordinal * 2 ^ scale ordinal * den := by ring
        _ ≤ num := above
    omega
  · have full : binade ≤ divHalfEven num (den * 2 ^ roundingScale num den) := by
      apply le_divHalfEven gap
      have wide := le_of_roundingScale (Nat.zero_lt_of_lt coarser)
      calc binade * (den * 2 ^ roundingScale num den)
          = 2 ^ (roundingScale num den + 52) * den := by
            rw [Nat.pow_add, show binade = 2 ^ 52 by decide]
            ring
        _ ≤ num := (Nat.le_div_iff_mul_le positive).1 wide
    have last := significand_lt ordinal
    have next : (scale ordinal + 1) * binade ≤ roundingScale num den * binade :=
      Nat.mul_le_mul_right _ coarser
    rw [Nat.add_mul, Nat.one_mul] at next
    omega

theorem ofUnits_of_lt (negative : Bool) (inside : nearest num den < finiteCount) :
    ofUnits negative num den = .finite negative ⟨nearest num den, inside⟩ := dif_pos inside

theorem ofUnits_of_le (negative : Bool) (outside : finiteCount ≤ nearest num den) :
    ofUnits negative num den = .infinite negative := dif_neg outside.not_gt

end Nearest

theorem units_strictMono : StrictMono units := by
  apply strictMono_nat_of_lt_succ
  intro ordinal
  rw [units_succ]
  exact Nat.lt_add_of_pos_right (Nat.two_pow_pos _)

/-- A positive whole number is not rounded below one. -/
theorem ofNat_cases {n : Nat} (positive : 0 < n) :
    ofNat n = .infinite false ∨
      ∃ ordinal, ofNat n = .finite false ordinal ∧ unit ≤ units ordinal := by
  have one : units (1023 * binade) = unit := by decide +kernel
  have above : 1023 * binade ≤ nearest (n * unit) 1 := by
    apply le_nearest Nat.one_pos
    rw [one, Nat.mul_one]
    exact Nat.le_mul_of_pos_left _ positive
  by_cases inside : nearest (n * unit) 1 < finiteCount
  · have wide : units (1023 * binade) ≤ units (nearest (n * unit) 1) :=
      units_strictMono.monotone above
    exact .inr ⟨_, ofUnits_of_lt false inside, one.symm.le.trans wide⟩
  · exact .inl (ofUnits_of_le false (Nat.le_of_not_lt inside))

/-- Division by a count neither leaves the finite range nor returns to it. -/
theorem isFinite_div_ofNat {n : Nat} (positive : 0 < n) (x : Binary64) :
    (x / ofNat n).isFinite = x.isFinite := by
  change (div x (ofNat n)).isFinite = x.isFinite
  rcases ofNat_cases positive with counted | ⟨divisor, counted, wide⟩
  · rw [counted]
    cases x <;> rfl
  · rw [counted]
    cases x with
    | infinite => rfl
    | nan => rfl
    | finite negative ordinal =>
      have positive : 0 < units divisor := Nat.lt_of_lt_of_le (by decide +kernel) wide
      have nonzero : divisor.val ≠ 0 := by
        intro zero
        rw [zero] at positive
        exact absurd positive (by decide)
      have below : nearest (units ordinal * unit) (units divisor) ≤ ordinal :=
        nearest_le positive (Nat.mul_le_mul_left _ wide)
      simp only [div, if_neg nonzero, ofUnits_of_lt _ (below.trans_lt ordinal.isLt), isFinite]

end RaceFarm.Binary64
