import RaceFarm.Proofs.Benchmark.ResultLines
import RaceFarm.Proofs.Binary64.Rounding

namespace RaceFarm

namespace ValueText

/-- No running sum of a list leaves the finite range. The other forms have nothing to add up. -/
def Bounded : ValueText → Prop
  | list numerals => ∀ values, Accepts numerals values →
      ∀ count, (total (values.take count)).isFinite = true
  | _ => True

theorem Accepts.isFinite {numerals : List (List Char)} {values : List Binary64}
    (accepted : Accepts numerals values) : ∀ v ∈ values, v.isFinite = true := by
  induction accepted with
  | nil => nofun
  | cons read _ ih => exact List.forall_mem_cons.2 ⟨(PerfResult.finite_eq_some_iff.1 read).2, ih⟩

theorem isFinite_of_add {x y : Binary64} (finite : y.isFinite = true)
    (sum : (x + y).isFinite = true) : x.isFinite = true := by
  change (Binary64.add x y).isFinite = true at sum
  cases x with
  | finite => rfl
  | infinite => cases y <;> cases finite; cases sum
  | nan => cases sum

/-- A sum that has left the finite range does not return to it. -/
theorem isFinite_of_foldl {values : List Binary64} (finite : ∀ v ∈ values, v.isFinite = true)
    {start : Binary64} (sum : (values.foldl (· + ·) start).isFinite = true) :
    start.isFinite = true := by
  induction values generalizing start with
  | nil => exact sum
  | cons v values ih =>
    obtain ⟨first, rest⟩ := List.forall_mem_cons.1 finite
    exact isFinite_of_add first (ih rest sum)

theorem total_isFinite_iff {values : List Binary64} (finite : ∀ v ∈ values, v.isFinite = true) :
    (total values).isFinite = true ↔ ∀ count, (total (values.take count)).isFinite = true := by
  constructor
  · intro sum count
    have later : ∀ v ∈ values.drop count, v.isFinite = true :=
      fun v listed => finite v (List.mem_of_mem_drop listed)
    apply isFinite_of_foldl later
    rw [total, ← List.foldl_append, List.take_append_drop]
    exact sum
  · intro running
    have whole := running values.length
    rwa [List.take_length] at whole

theorem Accepts.unique {numerals : List (List Char)} {values values' : List Binary64}
    (accepted : Accepts numerals values) (accepted' : Accepts numerals values') :
    values = values' := by
  rw [← PerfResult.mapM_finite_iff] at accepted accepted'
  rw [accepted] at accepted'
  exact Option.some.inj accepted'

/-- Numerals are finite, so that only the sum of a list can leave the finite range. -/
theorem Denotes.isFinite_iff {value : ValueText} {v : Binary64} (denotes : value.Denotes v) :
    v.isFinite = true ↔ value.Bounded := by
  cases value with
  | single numeral => exact iff_of_true (PerfResult.finite_eq_some_iff.1 denotes).2 trivial
  | pair average deviation =>
    exact iff_of_true (PerfResult.finite_eq_some_iff.1 denotes.1).2 trivial
  | list numerals =>
    obtain ⟨filled, values, accepted, rfl⟩ := denotes
    have counted : 0 < values.length := by
      rw [← accepted.length_eq]
      exact List.length_pos_iff.2 filled
    rw [Binary64.isFinite_div_ofNat counted, total_isFinite_iff accepted.isFinite]
    constructor
    · intro running values' accepted'
      rwa [accepted'.unique accepted]
    · intro bounded
      exact bounded values accepted

end ValueText

namespace PerfResult

open Text

theorem readValue_eq_some {text units : List Char} {v : Binary64}
    (read : readValue text = some (v, units)) : ∃ (value : ValueText) (gap : List Char),
      value.Denotes v ∧ AllBlank gap ∧ text = value.chars ++ gap ++ units := by
  cases text with
  | nil => cases read
  | cons first rest =>
    by_cases opens : first = '['
    · subst opens
      simp only [readValue, bind, Option.bind_eq_some_iff, Prod.exists] at read
      obtain ⟨list, more, found, v, mean, made⟩ := read
      cases made
      obtain ⟨rfl, -⟩ := cutAt_eq_some found
      obtain ⟨values, accepted, rfl⟩ := mean_eq_some_iff.1 mean
      refine ⟨.list (list.splitOn ','), [], ⟨List.splitOn_ne_nil _ _, values, accepted, rfl⟩,
        .nil, ?_⟩
      simp [ValueText.chars, List.intercalate_splitOn]
    · by_cases opens' : first = '\x7b'
      · subst opens'
        simp only [readValue, bind, Option.bind_eq_some_iff, Prod.exists] at read
        obtain ⟨pair, more, found, average, deviation, comma, v, read, made⟩ := read
        cases made
        obtain ⟨rfl, closed⟩ := cutAt_eq_some found
        obtain ⟨rfl, -⟩ := cutAt_eq_some comma
        refine ⟨.pair average deviation, [], ⟨read, fun listed => closed ?_⟩, .nil, ?_⟩
        · exact List.mem_append_right _ (List.mem_cons_of_mem _ listed)
        · simp [ValueText.chars]
      · rw [readValue_plain ⟨opens, opens'⟩] at read
        obtain ⟨v, finite, made⟩ := Option.map_eq_some_iff.1 read
        cases made
        cases found : cut isBlank (first :: rest) with
        | none =>
          rw [found] at finite
          exact ⟨.single (first :: rest), [], finite, .nil, by simp [ValueText.chars]⟩
        | some parts =>
          obtain ⟨numeral, more⟩ := parts
          rw [found] at finite
          obtain ⟨c, blank, spelled, -⟩ := cut_eq_some found
          exact ⟨.single numeral, [c], finite, .singleton blank, by simp [ValueText.chars, spelled]⟩

end PerfResult

namespace LogLine

open Text

/-- The text that follows the first `=` after the first `:` of a result line begins with a value. -/
def Carries (line : List Char) (value : ValueText) : Prop :=
  ∃ graph trace rest gap units : List Char,
    (unstarred (trim line)).2 = "RESULT ".toList ++ (graph ++ ':' :: (trace ++ '=' :: rest)) ∧
    ':' ∉ graph ∧ '=' ∉ trace ∧ AllBlank gap ∧ trim rest = value.chars ++ gap ++ units

/-- A result is finite unless it is the mean of a list whose sum is not. -/
theorem ofChars_isFinite_iff {line : List Char} {r : PerfResult} (read : ofChars line = .result r) :
    ∃ value, Carries line value ∧ value.Denotes r.value ∧
      (r.value.isFinite = true ↔ value.Bounded) := by
  obtain ⟨body, marked, read⟩ := ofChars_eq_result_iff.1 read
  obtain ⟨graph, trace, rest, units, rfl, plain, plain', -, -, read, -⟩ :=
    PerfResult.readBody_eq_some_iff.1 read
  obtain ⟨value, gap, denotes, blank, spelled⟩ := PerfResult.readValue_eq_some read
  exact ⟨value, ⟨graph, trace, rest, gap, units, marked, plain, plain', blank, spelled⟩, denotes,
    denotes.isFinite_iff⟩

theorem mean_of_two_bounded :
    let two : Binary64 := .finite false ⟨0x4000000000000000, by decide⟩
    ∃ value, Carries "RESULT time: total= [1,3] ms".toList value ∧ value.Denotes two ∧
      (two.isFinite = true ↔ value.Bounded) := by
  intro two
  have read : ofChars "RESULT time: total= [1,3] ms".toList =
      .result ⟨"time", "total", two, "ms", false⟩ := by decide +kernel
  exact ofChars_isFinite_iff read

/-- Numerals that are finite can have an infinite mean, which is not refused. -/
theorem mean_of_two_overflows : ofChars "RESULT time: total= [1.7e308,1.7e308] ms".toList =
    .result ⟨"time", "total", .infinite false, "ms", false⟩ := by
  decide +kernel

end LogLine

end RaceFarm
