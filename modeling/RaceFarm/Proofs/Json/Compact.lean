import RaceFarm.Proofs.Json.Numbers
import RaceFarm.Proofs.Json.Strings

namespace RaceFarm.Json

mutual

def Finite : Json → Prop
  | .real value => value.isFinite = true
  | .list items => FiniteItems items
  | .object members => FiniteMembers members
  | _ => True

def FiniteItems : List Json → Prop
  | [] => True
  | item :: items => Finite item ∧ FiniteItems items

def FiniteMembers : List (String × Json) → Prop
  | [] => True
  | (_, value) :: members => Finite value ∧ FiniteMembers members

end

theorem finiteItems_iff {items : List Json} : FiniteItems items ↔ ∀ item ∈ items, item.Finite := by
  induction items with
  | nil => simp [FiniteItems]
  | cons item items ih => simp [FiniteItems, ih]

theorem finiteMembers_iff {members : List (String × Json)} :
    FiniteMembers members ↔ ∀ member ∈ members, member.2.Finite := by
  induction members with
  | nil => simp [FiniteMembers]
  | cons member members ih => simp [FiniteMembers, ih]

/-- Stands for the first character of a value's text. -/
def lead : Json → Char
  | .null => 'n'
  | .bool value => if value then 't' else 'f'
  | .whole _ => '0'
  | .real _ => '0'
  | .str _ => '"'
  | .list _ => '['
  | .object _ => '\x7b'

def leadOf (c : Char) : Char := if isNumeric c then '0' else c

theorem head_numeric {text : List Char} (numeric : text ≠ [] ∧ AllNumeric text)
    (rest : List Char) : ∃ c, (text ++ rest).head? = some c ∧ leadOf c = '0' := by
  obtain ⟨c, tail, rfl⟩ := List.exists_cons_of_ne_nil numeric.1
  exact ⟨c, rfl, if_pos (numeric.2 c List.mem_cons_self)⟩

theorem compactChars_lead {v : Json} (finite : v.Finite) (rest : List Char) :
    ∃ c, (v.compactChars ++ rest).head? = some c ∧ leadOf c = v.lead := by
  cases v with
  | null => exact ⟨'n', rfl, rfl⟩
  | bool value => cases value <;> exact ⟨_, rfl, rfl⟩
  | whole value =>
    rw [compactChars]
    exact head_numeric (wholeText_numeric value) rest
  | real value =>
    rw [compactChars]
    exact head_numeric (realText_numeric finite) rest
  | str value => exact ⟨'"', rfl, rfl⟩
  | list items => cases items <;> exact ⟨'[', rfl, rfl⟩
  | object members => cases members <;> exact ⟨'\x7b', rfl, rfl⟩

theorem lead_eq {v w : Json} (finite : v.Finite) (finite' : w.Finite) {rest rest' : List Char}
    (same : v.compactChars ++ rest = w.compactChars ++ rest') : v.lead = w.lead := by
  obtain ⟨c, first, leads⟩ := compactChars_lead finite rest
  obtain ⟨c', first', leads'⟩ := compactChars_lead finite' rest'
  rw [same, first', Option.some.injEq] at first
  rw [← leads, ← leads', first]

/-- What may follow a number. -/
def Ends (rest : List Char) : Prop := ∀ c, rest.head? = some c → isNumeric c = false

theorem ends_nil : Ends [] := by
  intro c first
  cases first

theorem numeric_append_inj {text text' rest rest' : List Char} (numeric : AllNumeric text)
    (numeric' : AllNumeric text') (ends : Ends rest) (ends' : Ends rest')
    (same : text ++ rest = text' ++ rest') : text = text' ∧ rest = rest' := by
  have taken : ∀ {text rest}, AllNumeric text → Ends rest →
      (text ++ rest).takeWhile isNumeric = text := by
    intro text rest numeric ends
    rw [List.takeWhile_append_of_pos numeric]
    cases rest with
    | nil => exact List.append_nil _
    | cons c rest => simp [ends c rfl]
  have front : text = text' := by
    rw [← taken numeric ends, same, taken numeric' ends']
  rw [front] at same
  exact ⟨front, List.append_cancel_left same⟩

theorem list_cons_append (item : Json) (items : List Json) (rest : List Char) :
    (Json.list (item :: items)).compactChars ++ rest =
      '[' :: (item.compactChars ++ (compactItems items ++ rest)) := by
  simp only [compactChars, List.cons_append, List.append_assoc]

theorem items_cons_append (item : Json) (items : List Json) (rest : List Char) :
    compactItems (item :: items) ++ rest =
      ',' :: (item.compactChars ++ (compactItems items ++ rest)) := by
  simp only [compactItems, List.cons_append, List.append_assoc]

theorem object_cons_append (key : String) (value : Json) (members : List (String × Json))
    (rest : List Char) :
    (Json.object ((key, value) :: members)).compactChars ++ rest =
      '\x7b' :: (stringText key ++ ':' :: (value.compactChars ++ (compactMembers members ++ rest))) := by
  simp only [compactChars, List.cons_append, List.append_assoc]

theorem members_cons_append (key : String) (value : Json) (members : List (String × Json))
    (rest : List Char) :
    compactMembers ((key, value) :: members) ++ rest =
      ',' :: (stringText key ++ ':' :: (value.compactChars ++ (compactMembers members ++ rest))) := by
  simp only [compactMembers, List.cons_append, List.append_assoc]

theorem ends_items (items : List Json) (rest : List Char) : Ends (compactItems items ++ rest) := by
  intro c first
  cases items <;> cases first <;> rfl

theorem ends_members (members : List (String × Json)) (rest : List Char) :
    Ends (compactMembers members ++ rest) := by
  intro c first
  cases members <;> cases first <;> rfl

theorem compactChars_ne_close {v : Json} (finite : v.Finite) (rest rest' : List Char) :
    v.compactChars ++ rest ≠ ']' :: rest' := by
  intro same
  obtain ⟨c, first, leads⟩ := compactChars_lead finite rest
  rw [same] at first
  cases first
  cases v with
  | bool value => cases value <;> cases leads
  | _ => cases leads

mutual

/-- Where the text of a value ends, and which value it is, can be told from the text. -/
theorem compactChars_append_inj : ∀ {v w : Json} {rest rest' : List Char}, v.Finite → w.Finite →
    Ends rest → Ends rest' → v.compactChars ++ rest = w.compactChars ++ rest' →
      v = w ∧ rest = rest'
  | .null, w, rest, rest', finite, finite', ends, ends', same => by
    have leads := lead_eq finite finite' same
    cases w with
    | null => exact ⟨rfl, List.append_cancel_left same⟩
    | bool value => cases value <;> cases leads
    | _ => cases leads
  | .bool value, w, rest, rest', finite, finite', ends, ends', same => by
    have leads := lead_eq finite finite' same
    cases w with
    | bool value' =>
      obtain rfl : value = value' := by cases value <;> cases value' <;> simp_all [lead]
      exact ⟨rfl, List.append_cancel_left same⟩
    | _ => cases value <;> cases leads
  | .whole value, w, rest, rest', finite, finite', ends, ends', same => by
    have leads := lead_eq finite finite' same
    have numeric := (wholeText_numeric value).2
    cases w with
    | whole value' =>
      obtain ⟨text, rest⟩ :=
        numeric_append_inj numeric (wholeText_numeric value').2 ends ends' same
      exact ⟨congrArg _ (wholeText_inj text), rest⟩
    | real value' =>
      obtain ⟨text, -⟩ := numeric_append_inj numeric (realText_numeric finite').2 ends ends' same
      exact absurd text.symm (realText_ne_wholeText finite' value)
    | bool value => cases value <;> cases leads
    | _ => cases leads
  | .real value, w, rest, rest', finite, finite', ends, ends', same => by
    have leads := lead_eq finite finite' same
    have numeric := (realText_numeric finite).2
    cases w with
    | whole value' =>
      obtain ⟨text, -⟩ := numeric_append_inj numeric (wholeText_numeric value').2 ends ends' same
      exact absurd text (realText_ne_wholeText finite value')
    | real value' =>
      obtain ⟨text, rest⟩ :=
        numeric_append_inj numeric (realText_numeric finite').2 ends ends' same
      exact ⟨congrArg _ (realText_inj finite finite' text), rest⟩
    | bool value => cases value <;> cases leads
    | _ => cases leads
  | .str value, w, rest, rest', finite, finite', ends, ends', same => by
    have leads := lead_eq finite finite' same
    cases w with
    | str value' =>
      obtain ⟨rfl, rest⟩ := stringText_append_inj same
      exact ⟨rfl, rest⟩
    | bool value => cases value <;> cases leads
    | _ => cases leads
  | .list items, w, rest, rest', finite, finite', ends, ends', same => by
    have leads := lead_eq finite finite' same
    cases w with
    | list items' =>
      match items, items' with
      | [], [] => exact ⟨rfl, (List.cons.inj (List.cons.inj same).2).2⟩
      | [], item :: items =>
        rw [list_cons_append] at same
        exact absurd (List.cons.inj same).2.symm (compactChars_ne_close finite'.1 _ _)
      | item :: items, [] =>
        rw [list_cons_append] at same
        exact absurd (List.cons.inj same).2 (compactChars_ne_close finite.1 _ _)
      | item :: items, item' :: items' =>
        rw [list_cons_append, list_cons_append] at same
        obtain ⟨rfl, more⟩ := compactChars_append_inj finite.1 finite'.1 (ends_items items rest)
          (ends_items items' rest') (List.cons.inj same).2
        obtain ⟨rfl, rfl⟩ := compactItems_append_inj finite.2 finite'.2 more
        exact ⟨rfl, rfl⟩
    | bool value => cases value <;> cases leads
    | _ => cases leads
  | .object members, w, rest, rest', finite, finite', ends, ends', same => by
    have leads := lead_eq finite finite' same
    cases w with
    | object members' =>
      match members, members' with
      | [], [] => exact ⟨rfl, (List.cons.inj (List.cons.inj same).2).2⟩
      | [], _ :: _ => cases (List.cons.inj (List.cons.inj same).2).1
      | _ :: _, [] => cases (List.cons.inj (List.cons.inj same).2).1
      | (key, value) :: members, (key', value') :: members' =>
        rw [object_cons_append, object_cons_append] at same
        obtain ⟨rfl, colon⟩ := stringText_append_inj (List.cons.inj same).2
        obtain ⟨rfl, more⟩ := compactChars_append_inj finite.1 finite'.1
          (ends_members members rest) (ends_members members' rest') (List.cons.inj colon).2
        obtain ⟨rfl, rfl⟩ := compactMembers_append_inj finite.2 finite'.2 more
        exact ⟨rfl, rfl⟩
    | bool value => cases value <;> cases leads
    | _ => cases leads

theorem compactItems_append_inj : ∀ {items items' : List Json} {rest rest' : List Char},
    FiniteItems items → FiniteItems items' →
      compactItems items ++ rest = compactItems items' ++ rest' → items = items' ∧ rest = rest'
  | [], [], _, _, _, _, same => ⟨rfl, (List.cons.inj same).2⟩
  | [], item :: items, _, _, _, _, same => by cases (List.cons.inj same).1
  | item :: items, [], _, _, _, _, same => by cases (List.cons.inj same).1
  | item :: items, item' :: items', rest, rest', finite, finite', same => by
    rw [items_cons_append, items_cons_append] at same
    obtain ⟨rfl, more⟩ := compactChars_append_inj finite.1 finite'.1 (ends_items items rest)
      (ends_items items' rest') (List.cons.inj same).2
    obtain ⟨rfl, rfl⟩ := compactItems_append_inj finite.2 finite'.2 more
    exact ⟨rfl, rfl⟩

theorem compactMembers_append_inj : ∀ {members members' : List (String × Json)}
    {rest rest' : List Char}, FiniteMembers members → FiniteMembers members' →
      compactMembers members ++ rest = compactMembers members' ++ rest' →
        members = members' ∧ rest = rest'
  | [], [], _, _, _, _, same => ⟨rfl, (List.cons.inj same).2⟩
  | [], _ :: _, _, _, _, _, same => by cases (List.cons.inj same).1
  | _ :: _, [], _, _, _, _, same => by cases (List.cons.inj same).1
  | (key, value) :: members, (key', value') :: members', rest, rest', finite, finite', same => by
    rw [members_cons_append, members_cons_append] at same
    obtain ⟨rfl, colon⟩ := stringText_append_inj (List.cons.inj same).2
    obtain ⟨rfl, more⟩ := compactChars_append_inj finite.1 finite'.1 (ends_members members rest)
      (ends_members members' rest') (List.cons.inj colon).2
    obtain ⟨rfl, rfl⟩ := compactMembers_append_inj finite.2 finite'.2 more
    exact ⟨rfl, rfl⟩

end

/-- Different values with finite doubles have different texts. -/
theorem compact_inj {v w : Json} (finite : v.Finite) (finite' : w.Finite)
    (same : v.compact = w.compact) : v = w := by
  have texts : v.compactChars ++ [] = w.compactChars ++ [] := by
    have spelled := congrArg String.toList same
    simpa [compact] using spelled
  exact (compactChars_append_inj finite finite' ends_nil ends_nil texts).1

end RaceFarm.Json
