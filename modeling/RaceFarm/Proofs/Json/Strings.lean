import RaceFarm.Json.Scan

namespace RaceFarm.Json

/-- The three ways in which a character is written. -/
theorem escapedChar_cases (c : Char) :
    (∃ letter, escapedChar c = ['\\', letter] ∧ letter ≠ 'u' ∧ shortEscape letter = some c) ∨
    (c.toNat < 0x20 ∧ escapedChar c = '\\' :: 'u' :: '0' :: '0' ::
      Nat.digitChar (c.toNat / 16) :: [Nat.digitChar (c.toNat % 16)]) ∨
    (escapedChar c = [c] ∧ c ≠ '"' ∧ c ≠ '\\' ∧ ¬c.toNat < 0x20) := by
  unfold escapedChar
  split
  case h_8 quote backslash _ _ _ _ _ =>
    by_cases control : c.toNat < 0x20
    · exact .inr (.inl ⟨control, if_pos control⟩)
    · exact .inr (.inr ⟨if_neg control, quote, backslash, control⟩)
  all_goals exact .inl ⟨_, rfl, by decide, rfl⟩

theorem unicodeEscape_control {n : Nat} (control : n < 0x20) (rest : List Char) :
    unicodeEscape ('0' :: '0' :: Nat.digitChar (n / 16) :: Nat.digitChar (n % 16) :: rest) =
      .ok (Char.ofNat n, rest) := by
  have digits : ∀ n < 0x20,
      ¬(String.ofList ['0', '0', Nat.digitChar (n / 16), Nat.digitChar (n % 16)]).utf8ByteSize < 4 ∧
        hexValue (Nat.digitChar (n / 16)) = some (n / 16) ∧
        hexValue (Nat.digitChar (n % 16)) = some (n % 16) := by decide
  obtain ⟨sized, high, low⟩ := digits n control
  have zero : hexValue '0' = some 0 := by decide
  have quad : hexQuad ('0' :: '0' :: Nat.digitChar (n / 16) :: Nat.digitChar (n % 16) :: rest) =
      .ok (n, rest) := by
    have value : ((0 * 16 + 0) * 16 + n / 16) * 16 + n % 16 = n := by omega
    simp only [hexQuad, List.take_succ_cons, List.take_zero, if_neg sized, zero, high, low, value]
  have basic : ¬(0xDC00 ≤ n ∧ n ≤ 0xDFFF) := by omega
  have short : n < 0xD800 ∨ 0xDBFF < n := by omega
  simp only [unicodeEscape, quad, bind, Except.bind, if_neg basic, if_pos short, pure, Except.pure]

variable {fuel : Nat} {rest rest' body : List Char}

theorem stringBody_escape {text : List Char} {c : Char} (escaped : escape text = .ok (c, rest))
    (read : stringBody fuel rest = .ok (body, rest')) :
    stringBody (fuel + 1) ('\\' :: text) = .ok (c :: body, rest') := by
  simp [stringBody, escaped, read, bind, Except.bind, pure, Except.pure]

theorem stringBody_escapedChar (c : Char) (read : stringBody fuel rest = .ok (body, rest')) :
    stringBody (fuel + 1) (escapedChar c ++ rest) = .ok (c :: body, rest') := by
  rcases escapedChar_cases c with ⟨letter, written, plain, short⟩ | ⟨control, written⟩ |
    ⟨written, quote, backslash, control⟩
  · rw [written, List.cons_append, List.singleton_append]
    apply stringBody_escape _ read
    simp only [escape, if_neg plain, short]
  · rw [written]
    apply stringBody_escape _ read
    have value := unicodeEscape_control control rest
    rw [Char.ofNat_toNat] at value
    simpa [escape] using value
  · rw [written, List.singleton_append]
    simp [stringBody, quote, backslash, control, read, bind, Except.bind, pure, Except.pure]

theorem stringBody_closed (text rest : List Char) :
    ∀ fuel, text.length < fuel →
      stringBody fuel (text.flatMap escapedChar ++ '"' :: rest) = .ok (text, rest) := by
  induction text with
  | nil =>
    intro fuel enough
    obtain ⟨fuel, rfl⟩ := Nat.exists_eq_add_one.2 enough
    simp [stringBody]
  | cons c text ih =>
    intro fuel enough
    obtain ⟨fuel, rfl⟩ := Nat.exists_eq_add_one.2 (Nat.zero_lt_of_lt enough)
    rw [List.length_cons] at enough
    rw [List.flatMap_cons, List.append_assoc]
    exact stringBody_escapedChar c (ih fuel (by omega))

theorem length_le_flatMap_escapedChar (text : List Char) :
    text.length ≤ (text.flatMap escapedChar).length := by
  induction text with
  | nil => exact Nat.le_refl _
  | cons c text ih =>
    have filled : 0 < (escapedChar c).length := by
      rcases escapedChar_cases c with ⟨letter, written, -⟩ | ⟨-, written⟩ | ⟨written, -⟩ <;>
        simp [written]
    rw [List.flatMap_cons, List.length_append, List.length_cons]
    omega

/-- A written string reads back, whatever follows it. -/
theorem string_stringText (s : String) (rest : List Char) :
    string ((stringText s).tail ++ rest) = .ok (s, rest) := by
  have spelled : (stringText s).tail ++ rest = s.toList.flatMap escapedChar ++ '"' :: rest := by
    rw [stringText, List.cons_append, List.tail_cons, List.append_assoc, List.singleton_append]
  have long := length_le_flatMap_escapedChar s.toList
  rw [string, spelled]
  have read := stringBody_closed s.toList rest
    ((s.toList.flatMap escapedChar ++ '"' :: rest).length + 1)
    (by rw [List.length_append]; omega)
  simp only [read, bind, Except.bind, pure, Except.pure, String.ofList_toList]

theorem stringText_append_inj {s s' : String} {rest rest' : List Char}
    (same : stringText s ++ rest = stringText s' ++ rest') : s = s' ∧ rest = rest' := by
  have tails := congrArg (fun text => string text.tail) same
  simp only [stringText, List.cons_append, List.tail_cons] at tails
  have read := string_stringText s rest
  have read' := string_stringText s' rest'
  rw [stringText, List.cons_append, List.tail_cons] at read read'
  rw [read, read'] at tails
  exact Prod.mk.inj (Except.ok.inj tails)

end RaceFarm.Json
