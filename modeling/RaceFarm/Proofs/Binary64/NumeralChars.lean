import Mathlib.Data.List.TakeWhile
import RaceFarm.Binary64.Numeral
import RaceFarm.Text.Blank

namespace RaceFarm

namespace Binary64

/-- The characters of numerals, except for the words for infinity and NaN. -/
def NumeralChar (c : Char) : Prop := c.isDigit = true ∨ c ∈ ['+', '-', '.', 'e', 'E']

theorem NumeralChar.plain {c : Char} (numeral : NumeralChar c) :
    Text.isBlank c = false ∧ c ∉ [',', '[', ']', '\x7b', '\x7d'] := by
  rcases numeral with digit | other
  · have bounds : 0x30 ≤ c.toNat ∧ c.toNat ≤ 0x39 := by
      simpa [Char.isDigit, UInt32.le_iff_toNat_le] using digit
    constructor
    · simp only [Text.isBlank, Bool.or_eq_false_iff, Bool.and_eq_false_iff, decide_eq_false_iff_not,
        beq_eq_false_iff_ne]
      omega
    · intro listed
      simp only [List.mem_cons, List.not_mem_nil, or_false] at listed
      rcases listed with rfl | rfl | rfl | rfl | rfl <;> cases digit
  · simp only [List.mem_cons, List.not_mem_nil, or_false] at other
    rcases other with rfl | rfl | rfl | rfl | rfl <;> exact ⟨rfl, by decide⟩

theorem mem_takeSign {c : Char} {text : List Char} (listed : c ∈ text) :
    c ∈ (takeSign text).2 ∨ NumeralChar c := by
  unfold takeSign
  split
  · rcases List.mem_cons.1 listed with rfl | rest
    · exact .inr (.inr (by decide))
    · exact .inl rest
  · rcases List.mem_cons.1 listed with rfl | rest
    · exact .inr (.inr (by decide))
    · exact .inl rest
  · exact .inl listed

theorem readExponent_chars {text : List Char} {exponent : Int}
    (read : readExponent text = some exponent) : ∀ c ∈ text, NumeralChar c := by
  cases text with
  | nil => nofun
  | cons mark rest =>
    simp only [readExponent] at read
    split at read
    · rename_i proper
      obtain ⟨marked, -, digits⟩ := proper
      intro c listed
      rcases List.mem_cons.1 listed with rfl | later
      · rcases marked with rfl | rfl
        · exact .inr (by decide)
        · exact .inr (by decide)
      · rcases mem_takeSign later with digit | numeral
        · exact .inl (List.all_eq_true.1 digits c digit)
        · exact numeral
    · cases read

theorem readDigits_chars {negative : Bool} {text : List Char} {v : Binary64}
    (read : readDigits negative text = some v) : ∀ c ∈ text, NumeralChar c := by
  have digits : ∀ (rest : List Char), ∀ c ∈ rest.takeWhile Char.isDigit, NumeralChar c :=
    fun rest c listed => .inl (List.mem_takeWhile_imp listed)
  intro c listed
  rw [← List.takeWhile_append_dropWhile (p := Char.isDigit) (l := text), List.mem_append] at listed
  rcases listed with whole | later
  · exact digits text c whole
  · unfold readDigits at read
    dsimp only at read
    split at read
    · rename_i rest tail
      split at read
      · cases read
      · obtain ⟨exponent, read, -⟩ := Option.map_eq_some_iff.1 read
        rw [tail, List.mem_cons] at later
        rcases later with rfl | later
        · exact .inr (by decide)
        · rw [← List.takeWhile_append_dropWhile (p := Char.isDigit) (l := rest),
            List.mem_append] at later
          rcases later with fraction | after
          · exact digits rest c fraction
          · exact readExponent_chars read c after
    · split at read
      · cases read
      · obtain ⟨exponent, read, -⟩ := Option.map_eq_some_iff.1 read
        exact readExponent_chars read c later

theorem ofNumeral_chars {text : List Char} {v : Binary64} (read : ofNumeral text = some v)
    (finite : v.isFinite = true) : ∀ c ∈ text, NumeralChar c := by
  intro c listed
  simp only [ofNumeral] at read
  split at read
  · cases read
    cases finite
  · split at read
    · cases read
      cases finite
    · rcases mem_takeSign listed with body | sign
      · exact readDigits_chars read c body
      · exact sign

end Binary64

end RaceFarm
