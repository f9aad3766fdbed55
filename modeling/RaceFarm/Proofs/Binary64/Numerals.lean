import Mathlib.Data.List.TakeWhile
import RaceFarm.Binary64.Numeral
import RaceFarm.Json.Basic
import RaceFarm.Proofs.Binary64.Shortest

namespace RaceFarm

def AllDigits (text : List Char) : Prop := ∀ c ∈ text, c.isDigit = true

namespace AllDigits

theorem append {a b : List Char} (digits : AllDigits a) (digits' : AllDigits b) :
    AllDigits (a ++ b) := by
  intro c listed
  rcases List.mem_append.1 listed with front | back
  · exact digits c front
  · exact digits' c back

theorem zeros (count : Nat) : AllDigits (Binary64.zeros count) := by
  intro c listed
  rw [(List.mem_replicate.1 listed).2]
  rfl

theorem toDigits (n : Nat) : AllDigits (Nat.toDigits 10 n) :=
  fun _ listed => Nat.isDigit_of_mem_toDigits (by decide) (by decide) listed

end AllDigits

namespace Binary64

theorem ofDigits_eq (text : List Char) : ofDigits text = Nat.ofDigitChars 10 text 0 := rfl

theorem ofDigits_toDigits (n : Nat) : ofDigits (Nat.toDigits 10 n) = n :=
  Nat.ofDigitChars_toDigits (by decide) (by decide)

/-- A numeral without a sign, in parts. -/
structure Numeral where
  whole : List Char
  fraction : Option (List Char)
  exponent : Option Int

namespace Numeral

def exponentText (exponent : Int) : List Char :=
  'e' :: (if exponent < 0 then '-' else '+') :: Nat.toDigits 10 exponent.natAbs

def text (n : Numeral) : List Char :=
  n.whole ++ n.fraction.elim [] ('.' :: ·) ++ n.exponent.elim [] exponentText

def decimal (n : Numeral) : Decimal :=
  { digits := ofDigits (n.whole ++ n.fraction.getD [])
    exponent := n.exponent.getD 0 - (n.fraction.getD []).length }

/-- It begins with a digit and shows that it need not be whole. -/
structure Proper (n : Numeral) : Prop where
  filled : n.whole ≠ []
  whole : AllDigits n.whole
  fraction : AllDigits (n.fraction.getD [])
  marked : n.fraction = none → n.exponent ≠ none

end Numeral

/-- Reads a numeral without a sign, and keeps it decimal. -/
def Decimal.ofText (text : List Char) : Decimal :=
  let whole := text.takeWhile Char.isDigit
  let rest := text.dropWhile Char.isDigit
  let fraction := if rest.head? = some '.' then rest.tail.takeWhile Char.isDigit else []
  let rest := if rest.head? = some '.' then rest.tail.dropWhile Char.isDigit else rest
  { digits := ofDigits (whole ++ fraction)
    exponent := (readExponent rest).getD 0 - fraction.length }

theorem readExponent_exponentText (exponent : Int) :
    readExponent (Numeral.exponentText exponent) = some exponent := by
  have digits : (Nat.toDigits 10 exponent.natAbs).all Char.isDigit = true :=
    List.all_eq_true.2 (AllDigits.toDigits exponent.natAbs)
  have filled : Nat.toDigits 10 exponent.natAbs ≠ [] := Nat.toDigits_ne_nil
  by_cases negative : exponent < 0
  · have signed : takeSign ('-' :: Nat.toDigits 10 exponent.natAbs) =
      (true, Nat.toDigits 10 exponent.natAbs) := rfl
    have value : -(exponent.natAbs : Int) = exponent := by omega
    simp only [Numeral.exponentText, if_pos negative, readExponent, signed, if_true,
      ofDigits_toDigits, value]
    exact if_pos ⟨.inl trivial, filled, digits⟩
  · have signed : takeSign ('+' :: Nat.toDigits 10 exponent.natAbs) =
      (false, Nat.toDigits 10 exponent.natAbs) := rfl
    have value : (exponent.natAbs : Int) = exponent := by omega
    simp only [Numeral.exponentText, if_neg negative, readExponent, signed, Bool.false_eq_true,
      if_false, ofDigits_toDigits, value]
    exact if_pos ⟨.inl trivial, filled, digits⟩

namespace Numeral

variable {n : Numeral}

def tail (n : Numeral) : List Char := n.exponent.elim [] exponentText

theorem readExponent_tail (n : Numeral) : readExponent n.tail = some (n.exponent.getD 0) := by
  rw [tail]
  cases n.exponent with
  | none => rfl
  | some exponent => exact readExponent_exponentText exponent

theorem digits_tail {digits : List Char} (all : AllDigits digits) (n : Numeral) :
    (digits ++ n.tail).takeWhile Char.isDigit = digits ∧
      (digits ++ n.tail).dropWhile Char.isDigit = n.tail := by
  rw [List.takeWhile_append_of_pos all, List.dropWhile_append_of_pos all, tail]
  cases n.exponent with
  | none => exact ⟨List.append_nil _, rfl⟩
  | some exponent => exact ⟨List.append_nil _, rfl⟩

theorem head?_tail (n : Numeral) : n.tail.head? ≠ some '.' := by
  rw [tail]
  cases n.exponent <;> simp [exponentText]

theorem ofText_text (proper : n.Proper) : Decimal.ofText n.text = n.decimal := by
  have read := n.readExponent_tail
  cases h : n.fraction with
  | none =>
    have spelled : n.text = n.whole ++ n.tail := by
      rw [text, tail, h, Option.elim_none, List.append_nil]
    obtain ⟨whole, rest⟩ := digits_tail proper.whole n
    rw [← spelled] at whole rest
    simp only [Decimal.ofText, decimal, whole, rest, read, h, n.head?_tail, if_false,
      Option.getD_some, Option.getD_none]
  | some digits =>
    have fraction : AllDigits digits := by simpa [h] using proper.fraction
    have spelled : n.text = n.whole ++ '.' :: (digits ++ n.tail) := by
      rw [text, tail, h, Option.elim_some, List.append_assoc, List.cons_append]
    obtain ⟨taken, dropped⟩ := digits_tail fraction n
    have whole : n.text.takeWhile Char.isDigit = n.whole := by
      rw [spelled, List.takeWhile_append_of_pos proper.whole]
      exact List.append_nil _
    have rest : n.text.dropWhile Char.isDigit = '.' :: (digits ++ n.tail) := by
      rw [spelled, List.dropWhile_append_of_pos proper.whole]
      rfl
    simp only [Decimal.ofText, decimal, whole, rest, List.head?_cons, if_true, List.tail_cons,
      taken, dropped, read, h, Option.getD_some]

end Numeral

theorem Decimal.value_shift (digits shift : Nat) (exponent : Int) :
    (Decimal.mk (10 ^ shift * digits) exponent).value =
      (Decimal.mk digits (exponent + shift)).value := by
  simp only [value]
  push_cast
  rw [zpow_add₀ (by decide), zpow_natCast]
  ring

theorem ofDigits_append_zeros (digits : List Char) (count : Nat) :
    ofDigits (digits ++ zeros count) = 10 ^ count * ofDigits digits := by
  rw [ofDigits_eq, Nat.ofDigitChars_append, zeros, Nat.ofDigitChars_replicate_zero, ofDigits_eq]

theorem ofDigits_zeros_append (digits : List Char) (count : Nat) :
    ofDigits (zeros count ++ digits) = ofDigits digits := by
  rw [ofDigits_eq, Nat.ofDigitChars_append, zeros, Nat.ofDigitChars_replicate_zero, Nat.mul_zero,
    ofDigits_eq]

section Layouts

variable {digits : List Char}

theorem positional_numeral (all : AllDigits digits) (filled : digits ≠ []) (exponent : Int) :
    ∃ n : Numeral, n.Proper ∧
      positional ['.', '0'] digits exponent (exponent + digits.length - 1) = n.text ∧
      n.decimal.value = (Decimal.mk (ofDigits digits) exponent).value := by
  have long : 0 < digits.length := List.length_pos_iff.2 filled
  by_cases whole : 0 ≤ exponent
  · have padded :
        digits ++ zeros exponent.toNat ++ ['0'] = digits ++ zeros (exponent.toNat + 1) := by
      rw [zeros, zeros, List.replicate_succ', List.append_assoc]
    refine ⟨⟨digits ++ zeros exponent.toNat, some ['0'], none⟩,
      ⟨?_, all.append (.zeros _), AllDigits.zeros 1, nofun⟩, ?_, ?_⟩
    · simp [filled]
    · simp [positional, whole, Numeral.text]
    · simp only [Numeral.decimal, Option.getD_some, Option.getD_none, padded]
      rw [ofDigits_append_zeros, Decimal.value_shift]
      congr 2
      simp only [List.length_singleton]
      omega
  · by_cases point : 0 ≤ exponent + digits.length - 1
    · let before := (exponent + digits.length - 1).toNat + 1
      refine ⟨⟨digits.take before, some (digits.drop before), none⟩,
        ⟨?_, fun c listed => all c (List.mem_of_mem_take listed),
          fun c listed => all c (List.mem_of_mem_drop listed), nofun⟩, ?_, ?_⟩
      · simp [before, filled]
      · rw [positional, if_neg whole, if_pos point]
        simp [Numeral.text, before]
      · simp only [Numeral.decimal, Option.getD_some, Option.getD_none, List.take_append_drop]
        congr 2
        rw [List.length_drop]
        omega
    · let count := (-(exponent + digits.length - 1) - 1).toNat
      refine ⟨⟨['0'], some (zeros count ++ digits), none⟩,
        ⟨nofun, AllDigits.zeros 1, AllDigits.append (.zeros _) all, nofun⟩, ?_, ?_⟩
      · rw [positional, if_neg whole, if_neg point, Numeral.text, Option.elim_some,
          Option.elim_none, List.append_nil]
        rfl
      · have led : ['0'] ++ (zeros count ++ digits) = zeros (count + 1) ++ digits := rfl
        simp only [Numeral.decimal, Option.getD_some, Option.getD_none, led]
        rw [ofDigits_zeros_append]
        congr 2
        rw [List.length_append, zeros, List.length_replicate]
        omega

theorem scientific_numeral (all : AllDigits digits) (filled : digits ≠ []) (exponent : Int) :
    ∃ n : Numeral, n.Proper ∧
      scientific digits (exponent + digits.length - 1) = n.text ∧
      n.decimal.value = (Decimal.mk (ofDigits digits) exponent).value := by
  cases digits with
  | nil => exact absurd rfl filled
  | cons first rest =>
    cases rest with
    | nil =>
      refine ⟨⟨[first], none, some exponent⟩, ⟨nofun, all, nofun, nofun⟩, ?_, ?_⟩
      · simp [scientific, Numeral.text, Numeral.exponentText]
      · simp [Numeral.decimal]
    | cons second rest =>
      let leading := exponent + (first :: second :: rest).length - 1
      refine ⟨⟨[first], some (second :: rest), some leading⟩, ⟨nofun, ?_, ?_, nofun⟩, ?_, ?_⟩
      · exact fun c listed => all c (List.mem_append_left (second :: rest) listed)
      · exact fun c listed => all c (List.mem_cons_of_mem first listed)
      · rfl
      · simp only [Numeral.decimal, Option.getD_some, List.singleton_append]
        congr 2
        simp only [leading, List.length_cons]
        omega

end Layouts

/-- Every decimal is written as a numeral of its value. -/
theorem decimal_numeral (d : Decimal) : ∃ n : Numeral, n.Proper ∧
    Json.numberLayout.decimal d = n.text ∧ n.decimal.value = d.value := by
  let digits := Nat.toDigits 10 d.digits
  let leading := d.exponent + digits.length - 1
  have all : AllDigits digits := .toDigits d.digits
  have filled : digits ≠ [] := Nat.toDigits_ne_nil
  have laid : Json.numberLayout.decimal d = positional ['.', '0'] digits d.exponent leading ∨
      Json.numberLayout.decimal d = scientific digits leading := by
    by_cases plain : (decide (-5 ≤ leading) && decide (leading ≤ 15)) = true
    · exact .inl (if_pos plain)
    · exact .inr (if_neg plain)
  rcases laid with plain | marked
  · obtain ⟨n, proper, written, same⟩ := positional_numeral all filled d.exponent
    exact ⟨n, proper, plain.trans written, by rw [same, ofDigits_toDigits]⟩
  · obtain ⟨n, proper, written, same⟩ := scientific_numeral all filled d.exponent
    exact ⟨n, proper, marked.trans written, by rw [same, ofDigits_toDigits]⟩

theorem basin_zero_contains : (basin 0).Contains 0 := by
  have closed : (basin 0).closed = true := rfl
  have low : (basin 0).low = 0 := by decide
  rw [Basin.Contains, if_pos closed, low]
  exact ⟨le_of_eq Nat.cast_zero, Nat.cast_nonneg _⟩

/-- What is written for a double lies in its basin. -/
theorem magnitude_numeral (ordinal : Nat) : ∃ n : Numeral, n.Proper ∧
    Json.numberLayout.magnitude ordinal = n.text ∧
      (basin ordinal).Contains n.decimal.quarters := by
  by_cases zero : ordinal = 0
  · subst zero
    refine ⟨⟨['0'], some ['0'], none⟩,
      ⟨nofun, AllDigits.zeros 1, AllDigits.zeros 1, nofun⟩, rfl, ?_⟩
    have nothing : Numeral.decimal ⟨['0'], some ['0'], none⟩ = ⟨0, -1⟩ := rfl
    rw [nothing, Decimal.quarters, Decimal.value, Nat.cast_zero, zero_mul, mul_zero]
    exact basin_zero_contains
  · obtain ⟨n, proper, written, same⟩ := decimal_numeral (shortest .even ordinal)
    refine ⟨n, proper, (if_neg zero).trans written, ?_⟩
    rw [Decimal.quarters, same]
    exact shortest_contained .even ordinal

theorem magnitude_inj {ordinal ordinal' : Nat}
    (same : Json.numberLayout.magnitude ordinal = Json.numberLayout.magnitude ordinal') :
    ordinal = ordinal' := by
  obtain ⟨n, proper, written, inside⟩ := magnitude_numeral ordinal
  obtain ⟨n', proper', written', inside'⟩ := magnitude_numeral ordinal'
  have decimals : n.decimal = n'.decimal := by
    rw [← Numeral.ofText_text proper, ← Numeral.ofText_text proper', ← written, same, written']
  rw [decimals] at inside
  exact ordinal_unique inside inside'

end Binary64

end RaceFarm
