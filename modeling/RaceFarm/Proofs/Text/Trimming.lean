import Mathlib.Data.List.DropRight
import RaceFarm.Text.Blank

namespace RaceFarm.Text

def AllBlank (text : List Char) : Prop := ∀ c ∈ text, isBlank c = true

theorem AllBlank.nil : AllBlank [] := nofun

theorem AllBlank.append {lead tail : List Char} (blank : AllBlank lead) (blank' : AllBlank tail) :
    AllBlank (lead ++ tail) := by
  intro c listed
  rcases List.mem_append.1 listed with front | back
  · exact blank c front
  · exact blank' c back

theorem AllBlank.singleton {c : Char} (blank : isBlank c = true) : AllBlank [c] := by
  intro b listed
  rwa [List.mem_singleton.1 listed]

theorem AllBlank.space : AllBlank [' '] := .singleton rfl

theorem trimStart_eq_nil {text : List Char} (blank : AllBlank text) : trimStart text = [] :=
  List.dropWhile_eq_nil_iff.2 blank

theorem trimEnd_append {tail : List Char} (blank : AllBlank tail) (text : List Char) :
    trimEnd (text ++ tail) = trimEnd text := by
  rw [trimEnd, List.reverse_append, List.dropWhile_append_of_pos]
  · rfl
  · intro c listed
    exact blank c (List.mem_reverse.1 listed)

/-- Blanks around a text make no difference once it is trimmed. -/
theorem trim_padded {lead tail : List Char} (blank : AllBlank lead) (blank' : AllBlank tail)
    (text : List Char) : trim (lead ++ text ++ tail) = trim text := by
  rw [trim, trim, trimStart, trimStart, List.append_assoc, List.dropWhile_append_of_pos blank,
    List.dropWhile_append]
  split
  · rename_i empty
    rw [List.isEmpty_iff.1 empty, ← trimStart, trimStart_eq_nil blank']
  · exact trimEnd_append blank' _

theorem trim_append_left {lead : List Char} (blank : AllBlank lead) (text : List Char) :
    trim (lead ++ text) = trim text := by
  rw [← trim_padded blank .nil text, List.append_nil]

theorem trim_append_right {tail : List Char} (blank : AllBlank tail) (text : List Char) :
    trim (text ++ tail) = trim text := by
  rw [← trim_padded .nil blank text, List.nil_append]

theorem exists_trimEnd (text : List Char) :
    ∃ tail, AllBlank tail ∧ text = trimEnd text ++ tail := by
  refine ⟨text.rtakeWhile isBlank, fun c => List.mem_rtakeWhile_imp, ?_⟩
  have parts := List.takeWhile_append_dropWhile (p := isBlank) (l := text.reverse)
  rw [← List.reverse_inj, List.reverse_append] at parts
  rw [trimEnd, List.rtakeWhile, parts, List.reverse_reverse]

theorem exists_trim (text : List Char) :
    ∃ lead tail, AllBlank lead ∧ AllBlank tail ∧ text = lead ++ trim text ++ tail := by
  obtain ⟨tail, blank, parts⟩ := exists_trimEnd (trimStart text)
  refine ⟨text.takeWhile isBlank, tail, fun c => List.mem_takeWhile_imp, blank, ?_⟩
  rw [List.append_assoc, trim, ← parts, trimStart, List.takeWhile_append_dropWhile]

theorem mem_of_mem_trim {c : Char} {text : List Char} (kept : c ∈ trim text) : c ∈ text := by
  obtain ⟨lead, tail, -, -, parts⟩ := exists_trim text
  rw [parts]
  exact List.mem_append_left _ (List.mem_append_right _ kept)

@[simp]
theorem trim_trim (text : List Char) : trim (trim text) = trim text := by
  obtain ⟨lead, tail, blank, blank', parts⟩ := exists_trim text
  calc trim (trim text) = trim (lead ++ trim text ++ tail) := (trim_padded blank blank' _).symm
    _ = trim text := by rw [← parts]

theorem trim_trimEnd (text : List Char) : trim (trimEnd text) = trim text := by
  obtain ⟨tail, blank, parts⟩ := exists_trimEnd text
  calc trim (trimEnd text) = trim (trimEnd text ++ tail) := (trim_append_right blank _).symm
    _ = trim text := by rw [← parts]

/-- What is appended to a text that neither begins nor ends in a blank is trimmed at its end
    only. -/
theorem trim_append_of_trimmed {text : List Char} (trimmed : trim text = text) (filled : text ≠ [])
    (tail : List Char) : trim (text ++ tail) = text ++ trimEnd tail := by
  have first : trimStart text = text := by
    have longer := (List.dropWhile_suffix isBlank (l := text)).length_le
    have shorter : (trim text).length ≤ (trimStart text).length :=
      (List.rdropWhile_prefix isBlank (trimStart text)).length_le
    rw [trimmed] at shorter
    exact (List.dropWhile_suffix isBlank).eq_of_length (le_antisymm longer shorter)
  have last : trimEnd text = text := by rwa [trim, first] at trimmed
  have whole : trimEnd (text ++ tail) = text ++ trimEnd tail := by
    rw [trimEnd, List.reverse_append, List.dropWhile_append]
    split
    · rename_i empty
      have blank : trimEnd tail = [] := by rw [trimEnd, List.isEmpty_iff.1 empty, List.reverse_nil]
      rw [blank, List.append_nil]
      exact last
    · rw [List.reverse_append, List.reverse_reverse]
      rfl
  rw [trim, ← whole, trimStart, List.dropWhile_append, ← trimStart, first,
    if_neg (by simpa using filled)]

theorem trim_of_ends {first last : Char} (visible : isBlank first = false)
    (visible' : isBlank last = false) (inner : List Char) :
    trim (first :: inner ++ [last]) = first :: inner ++ [last] := by
  rw [trim, trimStart, List.cons_append, List.dropWhile_cons_of_neg (by simp [visible]), trimEnd,
    ← List.cons_append, List.reverse_append, List.reverse_singleton, List.singleton_append,
    List.dropWhile_cons_of_neg (by simp [visible']), List.reverse_cons, List.reverse_reverse]

end RaceFarm.Text
