import Mathlib.Data.List.Basic
import RaceFarm.Text.Blank

namespace RaceFarm.Text

/-- The pieces of a text between its blanks, without the empty ones. -/
def pieces (text : List Char) : List (List Char) :=
  (text.splitOnP isBlank).filter (!·.isEmpty)

def words (text : String) : List String :=
  (pieces text.toList).map String.ofList

/-- A text without blanks, which is a word by itself unless it is empty. -/
def Solid (text : String) : Prop := ∀ c ∈ text.toList, isBlank c = false

-- Instance search can find an instance that tries every character.
instance (text : String) : Decidable (Solid text) :=
  List.decidableBAll (isBlank · = false) text.toList

theorem Solid.append {first second : String} (solid : Solid first) (solid' : Solid second) :
    Solid (first ++ second) := by
  rw [Solid, String.toList_append, List.forall_mem_append]
  exact ⟨solid, solid'⟩

theorem pieces_append_blank {c : Char} (blank : isBlank c = true) (first second : List Char) :
    pieces (first ++ c :: second) = pieces first ++ pieces second := by
  rw [pieces, List.splitOnP_append_cons first second blank, List.filter_append]
  rfl

theorem pieces_intercalate (texts : List (List Char)) :
    pieces ([' '].intercalate texts) = texts.flatMap pieces := by
  induction texts with
  | nil => rfl
  | cons text texts ih =>
    cases texts with
    | nil => simp [List.intercalate]
    | cons next texts =>
      have first : [' '].intercalate (text :: next :: texts) =
          text ++ ' ' :: [' '].intercalate (next :: texts) := by
        simp [List.intercalate]
      rw [first, pieces_append_blank (by decide), ih]
      rfl

/-- Texts joined by single blanks have the words of each. -/
theorem words_intercalate (texts : List String) :
    words (" ".intercalate texts) = texts.flatMap words := by
  have blank : " ".toList = [' '] := by decide
  rw [words, String.toList_intercalate, blank, pieces_intercalate, List.map_flatMap,
    List.flatMap_map]
  rfl

theorem words_of_solid {text : String} (solid : Solid text) (filled : text ≠ "") :
    words text = [text] := by
  have nonempty : text.toList ≠ [] := by
    intro empty
    exact filled (String.toList_inj.1 empty)
  rw [words, pieces, List.splitOnP_eq_singleton solid,
    List.filter_cons_of_pos (by simpa using nonempty)]
  simp

theorem eq_of_mem_words {text word : String} (solid : Solid text) (listed : word ∈ words text) :
    word = text := by
  by_cases filled : text = ""
  · subst filled
    cases listed
  · rw [words_of_solid solid filled] at listed
    exact List.mem_singleton.1 listed

end RaceFarm.Text
