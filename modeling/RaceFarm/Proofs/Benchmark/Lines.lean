import Mathlib.Data.List.Forall2
import RaceFarm.Benchmark.Monitor
import RaceFarm.Proofs.Text.Trimming

namespace RaceFarm

namespace Text

/-- The lines of a text. A line ends in a line feed or in a carriage return with a line feed, and the
    last one may do without. -/
def lines : List Char → List (List Char)
  | [] => []
  | '\n' :: rest => [] :: lines rest
  | '\r' :: '\n' :: rest => [] :: lines rest
  | c :: rest =>
    match lines rest with
    | [] => [[c]]
    | line :: more => (c :: line) :: more

/-- A piece between two line feeds is a line, perhaps with a carriage return. -/
def Holds (line piece : List Char) : Prop :=
  piece = line ∨ piece = line ++ ['\r']

theorem Holds.cons {line piece : List Char} (same : Holds line piece) (c : Char) :
    Holds (c :: line) (c :: piece) := by
  rcases same with rfl | rfl
  · exact .inl rfl
  · exact .inr rfl

/-- The pieces between line feeds are the lines, and after a last line feed an empty one. -/
theorem lines_pieces (text : List Char) :
    ∃ tail, (tail = [] ∨ tail = [[]]) ∧
      List.Forall₂ Holds (lines text ++ tail) (text.splitOn '\n') := by
  induction text using lines.induct with
  | case1 => exact ⟨[[]], .inr rfl, .cons (.inl rfl) .nil⟩
  | case2 rest ih =>
    obtain ⟨tail, blank, same⟩ := ih
    refine ⟨tail, blank, ?_⟩
    rw [List.splitOn_cons_eq_if_modifyHead]
    exact .cons (.inl rfl) same
  | case3 rest ih =>
    obtain ⟨tail, blank, same⟩ := ih
    refine ⟨tail, blank, ?_⟩
    rw [List.splitOn_cons_eq_if_modifyHead, List.splitOn_cons_eq_if_modifyHead]
    exact .cons (.inr rfl) same
  | case4 c rest notFeed notReturn ended ih =>
    obtain ⟨tail, blank, same⟩ := ih
    rw [ended, List.nil_append] at same
    have other : (c == '\n') = false := by simpa using notFeed
    rw [List.splitOn_cons_eq_if_modifyHead, other]
    simp only [lines, ended]
    rcases blank with rfl | rfl
    · exact absurd (List.forall₂_nil_left_iff.1 same) (List.splitOn_ne_nil _ _)
    · obtain ⟨piece, pieces, first, none_left, spelled⟩ := List.forall₂_cons_left_iff.1 same
      obtain rfl := List.forall₂_nil_left_iff.1 none_left
      rw [spelled]
      exact ⟨[], .inl rfl, .cons (first.cons c) .nil⟩
  | case5 c rest notFeed notReturn line more ended ih =>
    obtain ⟨tail, blank, same⟩ := ih
    rw [ended, List.cons_append] at same
    obtain ⟨piece, pieces, first, others, spelled⟩ := List.forall₂_cons_left_iff.1 same
    have other : (c == '\n') = false := by simpa using notFeed
    rw [List.splitOn_cons_eq_if_modifyHead, other, spelled]
    simp only [lines, ended]
    exact ⟨tail, blank, .cons (first.cons c) others⟩

/-- A result line is told by its mark, which stands first on it but for blanks and a star. -/
def Announces (line : List Char) : Prop :=
  "RESULT ".toList <+: trim line ∨ "*RESULT ".toList <+: trim line

instance (line : List Char) : Decidable (Announces line) := by
  unfold Announces
  infer_instance

end Text

namespace LogLine

theorem ofChars_of_holds {line piece : List Char} (same : Text.Holds line piece) :
    ofChars piece = ofChars line := by
  rcases same with rfl | rfl
  · rfl
  · rw [ofChars, ofChars, Text.trim_append_right (.singleton (by decide))]

theorem map_ofChars_of_holds {lines pieces : List (List Char)}
    (same : List.Forall₂ Text.Holds lines pieces) : pieces.map ofChars = lines.map ofChars := by
  rw [← List.forall₂_eq_eq_eq, List.forall₂_map_left_iff, List.forall₂_map_right_iff]
  exact same.flip.imp fun _ _ holds => ofChars_of_holds holds

/-- Reading a log piece by piece finds what its lines hold, and perhaps an empty piece after them. -/
theorem map_ofChars_pieces (text : List Char) :
    ∃ tail, (∀ piece ∈ tail, piece = other) ∧
      (text.splitOn '\n').map ofChars = (Text.lines text).map ofChars ++ tail := by
  obtain ⟨tail, blank, same⟩ := Text.lines_pieces text
  refine ⟨tail.map ofChars, ?_, by rw [map_ofChars_of_holds same, List.map_append]⟩
  rcases blank with rfl | rfl
  · simp
  · simp [show ofChars [] = other from rfl]

/-- A trimmed line without the star of an important result. -/
def unstarred : List Char → Bool × List Char
  | '*' :: rest => (true, rest)
  | line => (false, line)

theorem announces_iff (line : List Char) :
    Text.Announces line ↔ "RESULT ".toList <+: (unstarred (Text.trim line)).2 := by
  have starred : "*RESULT ".toList = '*' :: "RESULT ".toList := by decide
  have plain : "RESULT ".toList = 'R' :: "ESULT ".toList := by decide
  unfold Text.Announces unstarred
  rw [starred]
  split
  · rename_i rest spelled
    have other : ¬"RESULT ".toList <+: '*' :: rest := by simp [plain]
    rw [spelled, List.prefix_cons_inj, or_iff_right other]
  · rename_i unmarked
    refine or_iff_left ?_
    rintro ⟨rest, spelled⟩
    exact unmarked _ spelled.symm

theorem ofChars_eq (line : List Char) :
    ofChars line =
      match Text.after "RESULT ".toList (unstarred (Text.trim line)).2 with
      | none => .other
      | some body =>
        match PerfResult.readBody (unstarred (Text.trim line)).1 body with
        | some r => .result r
        | none => .malformed (String.ofList (Text.trim line)) := by
  have parts : (match Text.trim line with
      | '*' :: rest => (true, rest)
      | _ => (false, Text.trim line)) = unstarred (Text.trim line) := by
    generalize Text.trim line = text
    fun_cases unstarred text with
    | case1 rest => rfl
    | case2 text unmarked =>
      split
      · exact absurd rfl (unmarked _)
      · rfl
  rw [← parts]
  rfl

/-- A result line is read or set down as malformed, and nothing else is either. -/
theorem ofChars_cases (line : List Char) :
    (Text.Announces line ∧
      ((∃ r, ofChars line = .result r) ∨
        ofChars line = .malformed (String.ofList (Text.trim line)))) ∨
    (¬Text.Announces line ∧ ofChars line = .other) := by
  rw [announces_iff, ofChars_eq]
  cases found : Text.after "RESULT ".toList (unstarred (Text.trim line)).2 with
  | none =>
    refine .inr ⟨?_, rfl⟩
    rintro ⟨body, spelled⟩
    rw [Text.after_eq_some_iff.2 spelled.symm] at found
    cases found
  | some body =>
    have spelled := Text.after_eq_some_iff.1 found
    refine .inl ⟨⟨body, spelled.symm⟩, ?_⟩
    cases read : PerfResult.readBody (unstarred (Text.trim line)).1 body with
    | none => exact .inr (by simp only [read])
    | some r => exact .inl ⟨r, by simp only [read]⟩

end LogLine

end RaceFarm
