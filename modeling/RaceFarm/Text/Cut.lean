namespace RaceFarm.Text

/-- The text before and after the first character that satisfies `p`. -/
def cut (p : Char → Bool) : List Char → Option (List Char × List Char)
  | [] => none
  | c :: rest =>
    if p c then some ([], rest)
    else (cut p rest).map fun (left, right) => (c :: left, right)

def cutAt (c : Char) : List Char → Option (List Char × List Char) :=
  cut (· == c)

/-- What follows `lead`, if the text begins with it. -/
def after (lead text : List Char) : Option (List Char) :=
  if lead.isPrefixOf text then some (text.drop lead.length) else none

def startsWith (lead text : String) : Bool :=
  lead.toList.isPrefixOf text.toList

/-- Whether `word` occurs anywhere in the text. -/
def mentions (word : List Char) : List Char → Bool
  | [] => word.isEmpty
  | c :: rest => word.isPrefixOf (c :: rest) || mentions word rest

/-- Puts `value` in place of the first `slot`; the inserted text is not searched again. -/
def fillFirst (slot value : List Char) : List Char → List Char
  | [] => []
  | c :: rest =>
    match after slot (c :: rest) with
    | some tail => value ++ tail
    | none => c :: fillFirst slot value rest

theorem after_eq_some_iff {lead text rest : List Char} :
    after lead text = some rest ↔ text = lead ++ rest := by
  unfold after
  split
  · rename_i leads
    obtain ⟨tail, rfl⟩ := List.isPrefixOf_iff_prefix.1 leads
    simp
  · rename_i other
    refine ⟨nofun, ?_⟩
    rintro rfl
    exact absurd (List.isPrefixOf_iff_prefix.2 (List.prefix_append lead rest)) other

theorem mentions_iff {word text : List Char} : mentions word text = true ↔ word <:+: text := by
  induction text with
  | nil => simp [mentions]
  | cons c rest ih =>
    rw [mentions, Bool.or_eq_true, List.isPrefixOf_iff_prefix, ih, List.infix_cons_iff]

theorem cut_eq_some {p : Char → Bool} {text left right : List Char}
    (h : cut p text = some (left, right)) :
    ∃ c, p c = true ∧ text = left ++ c :: right ∧ ∀ x ∈ left, p x = false := by
  induction text generalizing left with
  | nil => cases h
  | cons c rest ih =>
    unfold cut at h
    split at h
    · rename_i hc
      cases h
      exact ⟨c, hc, rfl, by simp⟩
    · rename_i hc
      obtain ⟨⟨l, r⟩, hr, he⟩ := Option.map_eq_some_iff.1 h
      cases he
      obtain ⟨d, hd, rfl, hl⟩ := ih hr
      exact ⟨d, hd, rfl, by simpa [hc] using hl⟩

theorem cut_append {p : Char → Bool} {left right : List Char} {c : Char}
    (hl : ∀ x ∈ left, p x = false) (hc : p c = true) :
    cut p (left ++ c :: right) = some (left, right) := by
  induction left with
  | nil => simp [cut, hc]
  | cons x left ih => simp_all [cut]

theorem cutAt_append {c : Char} {left : List Char} (absent : c ∉ left) (right : List Char) :
    cutAt c (left ++ c :: right) = some (left, right) := by
  apply cut_append
  · intro x listed
    rw [beq_eq_false_iff_ne]
    exact fun same => absent (same ▸ listed)
  · exact beq_self_eq_true c

theorem cutAt_eq_some {c : Char} {text left right : List Char}
    (found : cutAt c text = some (left, right)) : text = left ++ c :: right ∧ c ∉ left := by
  obtain ⟨x, same, parts, absent⟩ := cut_eq_some found
  obtain rfl := beq_iff_eq.1 same
  refine ⟨parts, fun listed => ?_⟩
  rw [absent x listed] at same
  cases same

theorem cut_eq_none {p : Char → Bool} {text : List Char} (absent : ∀ c ∈ text, p c = false) :
    cut p text = none := by
  rw [Option.eq_none_iff_forall_ne_some]
  rintro ⟨left, right⟩ found
  obtain ⟨c, here, rfl, -⟩ := cut_eq_some found
  rw [absent c (List.mem_append_right _ List.mem_cons_self)] at here
  cases here

end RaceFarm.Text
