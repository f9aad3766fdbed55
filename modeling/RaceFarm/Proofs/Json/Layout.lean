import RaceFarm.Proofs.Json.Compact

namespace RaceFarm.Json

/-- Blanks between two tokens. -/
def Gap (text : List Char) : Prop := ∀ c ∈ text, isSpace c = true

/-- What stands before an item or a member; only the first is not set off by a comma. -/
def Separates (first : Bool) (text : List Char) : Prop :=
  if first then Gap text
  else ∃ before after, Gap before ∧ Gap after ∧ text = before ++ ',' :: after

mutual

/-- The texts of a value differ in the blanks between their tokens. -/
def Spells : Json → List Char → Prop
  | .list items, text => ∃ inner, SpellsItems true items inner ∧ text = '[' :: inner
  | .object members, text => ∃ inner, SpellsMembers true members inner ∧ text = '\x7b' :: inner
  | v, text => text = v.compactChars

/-- Items up to the closing bracket. -/
def SpellsItems (first : Bool) : List Json → List Char → Prop
  | [], text => ∃ gap, Gap gap ∧ text = gap ++ [']']
  | item :: items, text => ∃ mark body rest, Separates first mark ∧ Spells item body ∧
      SpellsItems false items rest ∧ text = mark ++ (body ++ rest)

def SpellsMembers (first : Bool) : List (String × Json) → List Char → Prop
  | [], text => ∃ gap, Gap gap ∧ text = gap ++ ['\x7d']
  | (key, value) :: members, text => ∃ mark before after body rest, Separates first mark ∧
      Gap before ∧ Gap after ∧ Spells value body ∧ SpellsMembers false members rest ∧
      text = mark ++ (stringText key ++ (before ++ ':' :: (after ++ (body ++ rest))))

end

/-- A text that holds one value and nothing else. -/
def Document (v : Json) (text : String) : Prop :=
  ∃ before body after, Gap before ∧ Spells v body ∧ Gap after ∧
    text.toList = before ++ (body ++ after)

theorem Gap.nil : Gap [] := nofun

theorem Gap.blank : Gap [' '] := by
  intro c listed
  rw [List.mem_singleton.1 listed]
  rfl

theorem Gap.newLine (level : Nat) : Gap (newLine level) := by
  intro c listed
  rcases List.mem_cons.1 listed with rfl | blank
  · rfl
  · rw [(List.mem_replicate.1 blank).2]
    rfl

theorem separates_comma {gap : List Char} (blank : Gap gap) : Separates false (',' :: gap) :=
  ⟨[], gap, .nil, blank, rfl⟩

mutual

theorem spells_compact : ∀ v : Json, Spells v v.compactChars
  | .null => rfl
  | .bool _ => rfl
  | .whole _ => rfl
  | .real _ => rfl
  | .str _ => rfl
  | .list [] => ⟨[']'], ⟨[], .nil, rfl⟩, rfl⟩
  | .list (item :: items) =>
    ⟨item.compactChars ++ compactItems items, ⟨[], item.compactChars, compactItems items, .nil,
      spells_compact item, spellsItems_compact items, rfl⟩, rfl⟩
  | .object [] => ⟨['\x7d'], ⟨[], .nil, rfl⟩, rfl⟩
  | .object ((key, value) :: members) =>
    ⟨stringText key ++ ':' :: (value.compactChars ++ compactMembers members),
      ⟨[], [], [], value.compactChars, compactMembers members, .nil, .nil, .nil,
        spells_compact value, spellsMembers_compact members, rfl⟩, by simp [compactChars]⟩

theorem spellsItems_compact : ∀ items : List Json, SpellsItems false items (compactItems items)
  | [] => ⟨[], .nil, rfl⟩
  | item :: items =>
    ⟨[','], item.compactChars, compactItems items, separates_comma .nil, spells_compact item,
      spellsItems_compact items, by simp [compactItems]⟩

theorem spellsMembers_compact : ∀ members : List (String × Json),
    SpellsMembers false members (compactMembers members)
  | [] => ⟨[], .nil, rfl⟩
  | (key, value) :: members =>
    ⟨[','], [], [], value.compactChars, compactMembers members, separates_comma .nil, .nil, .nil,
      spells_compact value, spellsMembers_compact members, by simp [compactMembers]⟩

end

mutual

theorem spells_indented : ∀ (level : Nat) (v : Json), Spells v (v.indentedChars level)
  | _, .null => rfl
  | _, .bool _ => rfl
  | _, .whole _ => rfl
  | _, .real _ => rfl
  | _, .str _ => rfl
  | _, .list [] => ⟨[']'], ⟨[], .nil, rfl⟩, rfl⟩
  | level, .list (item :: items) =>
    ⟨newLine (level + 1) ++ (indentedChars (level + 1) item ++ indentedItems level items),
      ⟨newLine (level + 1), _, _, .newLine _, spells_indented (level + 1) item,
        spellsItems_indented level items, rfl⟩, by simp [indentedChars]⟩
  | _, .object [] => ⟨['\x7d'], ⟨[], .nil, rfl⟩, rfl⟩
  | level, .object ((key, value) :: members) =>
    ⟨newLine (level + 1) ++ (stringText key ++ ':' :: ' ' ::
        (indentedChars (level + 1) value ++ indentedMembers level members)),
      ⟨newLine (level + 1), [], [' '], _, _, .newLine _, .nil, .blank,
        spells_indented (level + 1) value, spellsMembers_indented level members, rfl⟩,
      by simp [indentedChars]⟩

theorem spellsItems_indented : ∀ (level : Nat) (items : List Json),
    SpellsItems false items (indentedItems level items)
  | level, [] => ⟨newLine level, .newLine level, rfl⟩
  | level, item :: items =>
    ⟨',' :: newLine (level + 1), _, _, separates_comma (.newLine _),
      spells_indented (level + 1) item, spellsItems_indented level items,
      by simp [indentedItems]⟩

theorem spellsMembers_indented : ∀ (level : Nat) (members : List (String × Json)),
    SpellsMembers false members (indentedMembers level members)
  | level, [] => ⟨newLine level, .newLine level, rfl⟩
  | level, (key, value) :: members =>
    ⟨',' :: newLine (level + 1), [], [' '], _, _, separates_comma (.newLine _), .nil, .blank,
      spells_indented (level + 1) value, spellsMembers_indented level members,
      by simp [indentedMembers]⟩

end

theorem document_compact (v : Json) : Document v v.compact :=
  ⟨[], v.compactChars, [], .nil, spells_compact v, .nil, by simp [compact]⟩

theorem document_indented (v : Json) : Document v v.indented :=
  ⟨[], v.indentedChars 0, [], .nil, spells_indented 0 v, .nil, by simp [indented]⟩

end RaceFarm.Json
