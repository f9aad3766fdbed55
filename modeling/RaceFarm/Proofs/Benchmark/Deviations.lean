import RaceFarm.Proofs.Benchmark.Accounts
import RaceFarm.Proofs.Binary64.Rounding

namespace RaceFarm

namespace Binary64

/-- The exact value as a multiple of the least positive double. What is not finite has none. -/
def amount : Binary64 → Int
  | finite negative ordinal => signedUnits negative ordinal
  | _ => 0

theorem signedUnits_lt_iff (a b : Bool) (x y : Nat) :
    signedUnits a x < signedUnits b y ↔
      (if a then -(x : Int) else x) < if b then -(y : Int) else y := by
  have less : units x < units y ↔ x < y := units_strictMono.lt_iff_lt
  have more : units y < units x ↔ y < x := units_strictMono.lt_iff_lt
  have none : units x = 0 ↔ x = 0 := units_strictMono.injective.eq_iff (b := 0)
  have none' : units y = 0 ↔ y = 0 := units_strictMono.injective.eq_iff (b := 0)
  unfold signedUnits
  cases a <;> cases b <;> simp only [if_true, if_false, Bool.false_eq_true] <;> omega

variable {x y : Binary64}

theorem lt_iff_amount_lt (hx : x.isFinite = true) (hy : y.isFinite = true) :
    x < y ↔ x.amount < y.amount := by
  cases x <;> cases hx
  cases y <;> cases hy
  exact (signedUnits_lt_iff _ _ _ _).symm

theorem le_iff_not_lt (hx : x.isFinite = true) (hy : y.isFinite = true) : x ≤ y ↔ ¬y < x := by
  cases x <;> cases hx
  cases y <;> cases hy
  exact Int.not_lt.symm

theorem le_iff_amount_le (hx : x.isFinite = true) (hy : y.isFinite = true) :
    x ≤ y ↔ x.amount ≤ y.amount := by
  rw [le_iff_not_lt hx hy, lt_iff_amount_lt hy hx, Int.not_lt]

end Binary64

namespace Expectation

/-- A value can lie beyond one bound only, so that the order of the two tests does not show. -/
theorem deviation_iff {worse better : Prop} [Decidable worse] [Decidable better]
    (apart : worse → ¬better) :
    ((if worse then some Deviation.regress else if better then some .improve else none) =
        some .regress ↔ worse) ∧
      ((if worse then some Deviation.regress else if better then some .improve else none) =
        some .improve ↔ better) := by
  by_cases beyond : worse
  · simp [beyond, apart beyond]
  · by_cases under : better <;> simp [beyond, under]

variable {e : Expectation} {v : Binary64} (improve : e.improve.isFinite = true)
  (regress : e.regress.isFinite = true) (value : v.isFinite = true)

include improve regress value

/-- Level bounds count as those of a value that had better be low. -/
theorem check_lower_iff (lower : e.improve.amount ≤ e.regress.amount) :
    (e.check v = some .regress ↔ e.regress.amount < v.amount) ∧
      (e.check v = some .improve ↔ v.amount < e.improve.amount) := by
  have direction : e.lowerIsBetter := (Binary64.le_iff_amount_le improve regress).2 lower
  have above := Binary64.lt_iff_amount_lt regress value
  have below := Binary64.lt_iff_amount_lt value improve
  rw [check, if_pos direction, ← above, ← below]
  apply deviation_iff
  rw [above, below]
  omega

theorem check_higher_iff (higher : e.regress.amount < e.improve.amount) :
    (e.check v = some .regress ↔ v.amount < e.regress.amount) ∧
      (e.check v = some .improve ↔ e.improve.amount < v.amount) := by
  have direction : ¬e.lowerIsBetter := by
    intro lower
    have ordered := (Binary64.le_iff_amount_le improve regress).1 lower
    omega
  have below := Binary64.lt_iff_amount_lt value regress
  have above := Binary64.lt_iff_amount_lt improve value
  rw [check, if_neg direction, ← below, ← above]
  apply deviation_iff
  rw [below, above]
  omega

end Expectation

namespace Monitor

theorem deviating_singleton (m : Monitor) (way : Deviation) (r : PerfResult) :
    m.deviating way [r] = if m.deviation r = some way then [r.key] else [] := by
  rw [deviating, List.filter_singleton]
  by_cases deviates : m.deviation r = some way <;> simp [deviates]

/-- What a result line adds to the deviations noted so far. -/
structure DirectionRule (e : Expectation) (r : PerfResult) (before after : Monitor) : Prop where
  -- The lower, the better. Bounds that are level are among these.
  lower : e.improve.amount ≤ e.regress.amount →
    after.regressions = before.regressions ++
      (if e.regress.amount < r.value.amount then [r.key] else []) ∧
    after.improvements = before.improvements ++
      (if r.value.amount < e.improve.amount then [r.key] else [])
  higher : e.regress.amount < e.improve.amount →
    after.regressions = before.regressions ++
      (if r.value.amount < e.regress.amount then [r.key] else []) ∧
    after.improvements = before.improvements ++
      (if e.improve.amount < r.value.amount then [r.key] else [])
  expected : (e.improve.amount ≤ r.value.amount ∧ r.value.amount ≤ e.regress.amount) ∨
      (e.regress.amount ≤ r.value.amount ∧ r.value.amount ≤ e.improve.amount) →
    after.regressions = before.regressions ∧ after.improvements = before.improvements

variable {m : Monitor} {line : String} {r : PerfResult} {e : Expectation}

theorem addLog_result (single : '\n' ∉ line.toList)
    (read : LogLine.ofChars line.toList = .result r) :
    m.addLog line = { m.noting [r] [] with processed := true } := by
  have one : readings line = [.result r] := by
    rw [readings, List.splitOn_eq_singleton single, List.map_singleton, read]
  calc m.addLog line = m.addLines (readings line) := rfl
    _ = _ := by
      rw [one, addLines_eq]
      rfl

theorem deviation_of_expected (expected : m.spec.expectations.get? r.key = some e) :
    m.deviation r = e.check r.value := by
  rw [deviation, expected, Option.bind_some]

theorem addLog_follows_direction (single : '\n' ∉ line.toList)
    (read : LogLine.ofChars line.toList = .result r)
    (expected : m.spec.expectations.get? r.key = some e) (improve : e.improve.isFinite = true)
    (regress : e.regress.isFinite = true) (value : r.value.isFinite = true) :
    DirectionRule e r m (m.addLog line) := by
  have lower := Expectation.check_lower_iff improve regress value
  have higher := Expectation.check_higher_iff improve regress value
  rw [addLog_result single read, noting, deviating_singleton, deviating_singleton,
    deviation_of_expected expected]
  refine { lower := fun ordered => ?_, higher := fun ordered => ?_, expected := fun between => ?_ }
  · simp [lower ordered]
  · simp [higher ordered]
  · rcases lt_or_ge e.regress.amount e.improve.amount with ordered | ordered
    · simp [higher ordered]
      omega
    · simp [lower ordered]
      omega

theorem low_rate_follows_direction :
    let e : Expectation :=
      ⟨.finite false ⟨0x4082C00000000000, by decide⟩, .finite false ⟨0x4079000000000000, by decide⟩⟩
    let m := start ⟨"linux", "bigtest", KeyTable.ofList [("ops/rate", e)]⟩
    let r : PerfResult :=
      ⟨"ops", "rate", .finite false ⟨0x4072C00000000000, by decide⟩, "ops/s", false⟩
    LogLine.ofChars "RESULT ops: rate= 300 ops/s".toList = .result r ∧
      r.value.amount < e.regress.amount ∧ e.regress.amount < e.improve.amount ∧
      DirectionRule e r m (m.addLog "RESULT ops: rate= 300 ops/s") := by
  intro e m r
  have read : LogLine.ofChars "RESULT ops: rate= 300 ops/s".toList = .result r := by
    decide +kernel
  have expected : m.spec.expectations.get? r.key = some e := by decide +kernel
  exact ⟨read, by decide +kernel, by decide +kernel,
    addLog_follows_direction (by decide) read expected rfl rfl rfl⟩

/-- With level bounds a value above them is a regression, not an improvement. -/
theorem level_bounds_regress_above :
    let bound : Binary64 := .finite false ⟨0x4059000000000000, by decide⟩
    let m := start ⟨"linux", "bigtest", KeyTable.ofList [("time/total", ⟨bound, bound⟩)]⟩
    let value : Binary64 := .finite false ⟨0x4062C00000000000, by decide⟩
    LogLine.ofChars "RESULT time: total= 150 ms".toList =
        .result ⟨"time", "total", value, "ms", false⟩ ∧
      bound.amount < value.amount ∧
      (m.addLog "RESULT time: total= 150 ms").regressions = ["time/total"] ∧
      (m.addLog "RESULT time: total= 150 ms").improvements = [] := by
  decide +kernel

end Monitor

end RaceFarm
