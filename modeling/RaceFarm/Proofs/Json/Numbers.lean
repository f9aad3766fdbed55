import RaceFarm.Proofs.Binary64.Numerals
import RaceFarm.Proofs.Variant.Naming

namespace RaceFarm

/-- What the text of a number is made of. -/
def isNumeric (c : Char) : Bool := c.isDigit || ['.', 'e', '+', '-'].contains c

theorem isNumeric_of_isDigit {c : Char} (digit : c.isDigit = true) : isNumeric c = true := by
  rw [isNumeric, digit, Bool.true_or]

def AllNumeric (text : List Char) : Prop := ∀ c ∈ text, isNumeric c = true

namespace AllNumeric

theorem append {a b : List Char} (numeric : AllNumeric a) (numeric' : AllNumeric b) :
    AllNumeric (a ++ b) := by
  intro c listed
  rcases List.mem_append.1 listed with front | back
  · exact numeric c front
  · exact numeric' c back

theorem cons {c : Char} {text : List Char} (first : isNumeric c = true)
    (numeric : AllNumeric text) : AllNumeric (c :: text) := by
  intro d listed
  rcases List.mem_cons.1 listed with rfl | later
  · exact first
  · exact numeric d later

theorem of_digits {text : List Char} (digits : AllDigits text) : AllNumeric text :=
  fun c listed => isNumeric_of_isDigit (digits c listed)

end AllNumeric

theorem ne_minus_append {c : Char} {text : List Char} (digit : c.isDigit = true)
    (rest : List Char) : c :: text ≠ ['-'] ++ rest := by
  intro same
  obtain ⟨rfl, -⟩ := List.cons.inj same
  cases digit

namespace Binary64.Numeral

variable {n : Numeral}

theorem Proper.allNumeric (proper : n.Proper) : AllNumeric n.text := by
  have fraction : AllNumeric (n.fraction.elim [] ('.' :: ·)) := by
    have digits := proper.fraction
    cases h : n.fraction with
    | none => exact nofun
    | some fraction =>
      rw [h] at digits
      exact .cons rfl (.of_digits digits)
  have exponent : AllNumeric (n.exponent.elim [] exponentText) := by
    cases n.exponent with
    | none => exact nofun
    | some exponent =>
      have sign : isNumeric (if exponent < 0 then '-' else '+') = true := by split <;> rfl
      exact .cons rfl (.cons sign (.of_digits (.toDigits _)))
  exact ((AllNumeric.of_digits proper.whole).append fraction).append exponent

theorem Proper.unsigned (proper : n.Proper) (rest : List Char) : n.text ≠ ['-'] ++ rest := by
  obtain ⟨c, whole, spelled⟩ := List.exists_cons_of_ne_nil proper.filled
  have digit : c.isDigit = true := proper.whole c (by rw [spelled]; exact List.mem_cons_self)
  rw [text, spelled, List.cons_append, List.cons_append]
  exact ne_minus_append digit rest

theorem Proper.mark (proper : n.Proper) : '.' ∈ n.text ∨ 'e' ∈ n.text := by
  rw [text]
  cases fraction : n.fraction with
  | some digits => simp
  | none =>
    obtain ⟨exponent, given⟩ := Option.ne_none_iff_exists'.1 (proper.marked fraction)
    simp [given, exponentText]

end Binary64.Numeral

namespace Json

theorem realText_finite (negative : Bool) (ordinal : Fin Binary64.finiteCount) :
    realText (.finite negative ordinal) =
      (if negative then ['-'] else []) ++ numberLayout.magnitude ordinal := by
  cases negative <;> rfl

theorem wholeText_eq (n : Int) :
    wholeText n = (if decide (n < 0) then ['-'] else []) ++ Nat.toDigits 10 n.natAbs := by
  by_cases negative : n < 0 <;> simp [wholeText, negative]

theorem signed_numeric {text : List Char} (numeric : AllNumeric text) (negative : Bool) :
    AllNumeric ((if negative then ['-'] else []) ++ text) := by
  cases negative with
  | false => exact numeric
  | true => exact .cons rfl numeric

theorem realText_numeral {x : Binary64} (finite : x.isFinite = true) :
    ∃ (negative : Bool) (n : Binary64.Numeral), n.Proper ∧
      realText x = (if negative then ['-'] else []) ++ n.text := by
  cases x with
  | infinite negative => cases finite
  | nan => cases finite
  | finite negative ordinal =>
    obtain ⟨n, proper, written, -⟩ := Binary64.magnitude_numeral ordinal
    exact ⟨negative, n, proper, by rw [realText_finite, written]⟩

theorem realText_numeric {x : Binary64} (finite : x.isFinite = true) :
    realText x ≠ [] ∧ AllNumeric (realText x) := by
  obtain ⟨negative, n, proper, written⟩ := realText_numeral finite
  rw [written]
  refine ⟨?_, signed_numeric proper.allNumeric negative⟩
  have filled : n.text ≠ [] := by simp [Binary64.Numeral.text, proper.filled]
  exact List.append_ne_nil_of_right_ne_nil _ filled

theorem wholeText_numeric (n : Int) : wholeText n ≠ [] ∧ AllNumeric (wholeText n) := by
  rw [wholeText_eq]
  exact ⟨List.append_ne_nil_of_right_ne_nil _ Nat.toDigits_ne_nil,
    signed_numeric (.of_digits (.toDigits _)) _⟩

theorem realText_inj {x y : Binary64} (finite : x.isFinite = true) (finite' : y.isFinite = true)
    (same : realText x = realText y) : x = y := by
  cases x with
  | infinite negative => cases finite
  | nan => cases finite
  | finite negative ordinal =>
    cases y with
    | infinite negative => cases finite'
    | nan => cases finite'
    | finite negative' ordinal' =>
      obtain ⟨n, proper, written, -⟩ := Binary64.magnitude_numeral ordinal
      obtain ⟨n', proper', written', -⟩ := Binary64.magnitude_numeral ordinal'
      rw [realText_finite, realText_finite] at same
      obtain ⟨sign, magnitude⟩ := marked_inj (by rw [written]; exact proper.unsigned)
        (by rw [written']; exact proper'.unsigned) same
      rw [sign, Fin.ext (Binary64.magnitude_inj magnitude)]

theorem toDigits_unsigned (n : Nat) (rest : List Char) : Nat.toDigits 10 n ≠ ['-'] ++ rest := by
  obtain ⟨c, text, spelled⟩ := List.exists_cons_of_ne_nil (Nat.toDigits_ne_nil (n := n) (b := 10))
  have digit : c.isDigit = true := by
    apply AllDigits.toDigits n
    rw [spelled]
    exact List.mem_cons_self
  rw [spelled]
  exact ne_minus_append digit rest

theorem wholeText_inj {n m : Int} (same : wholeText n = wholeText m) : n = m := by
  rw [wholeText_eq, wholeText_eq] at same
  obtain ⟨sign, digits⟩ := marked_inj (toDigits_unsigned _) (toDigits_unsigned _) same
  have magnitude : n.natAbs = m.natAbs := by
    rw [← Binary64.ofDigits_toDigits n.natAbs, digits, Binary64.ofDigits_toDigits]
  rw [decide_eq_decide] at sign
  omega

/-- A double never looks like a whole number. -/
theorem realText_ne_wholeText {x : Binary64} (finite : x.isFinite = true) (n : Int) :
    realText x ≠ wholeText n := by
  have plain : ∀ c ∈ wholeText n, c ≠ '.' ∧ c ≠ 'e' := by
    intro c listed
    rw [wholeText_eq] at listed
    rcases List.mem_append.1 listed with sign | digit
    · split at sign
      · rw [List.mem_singleton.1 sign]
        decide
      · cases sign
    · have digit := AllDigits.toDigits _ c digit
      constructor <;> (rintro rfl; cases digit)
  intro same
  obtain ⟨negative, m, proper, written⟩ := realText_numeral finite
  rw [← same, written] at plain
  rcases proper.mark with point | exponent
  · exact (plain '.' (List.mem_append_right _ point)).1 rfl
  · exact (plain 'e' (List.mem_append_right _ exponent)).2 rfl

end Json

end RaceFarm
