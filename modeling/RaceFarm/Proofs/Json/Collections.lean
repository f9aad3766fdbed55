import RaceFarm.Proofs.Json.Readers

namespace RaceFarm.Json

variable {α : Type} {read : Reader α} {v : Json} {x : α}

theorem items_follow {items : List Json} {text : List Char} (spelled : SpellsItems false items text)
    (rest : List Char) : Follows (text ++ rest) := by
  cases items with
  | nil =>
    obtain ⟨gap, blank, rfl⟩ := spelled
    rw [List.append_assoc]
    exact follows_gap blank (by decide) _
  | cons item items =>
    obtain ⟨mark, body, more, ⟨before, after, blank, -, rfl⟩, -, -, rfl⟩ := spelled
    rw [List.append_assoc, List.append_assoc]
    exact follows_gap blank (by decide) _

theorem members_follow {members : List (String × Json)} {text : List Char}
    (spelled : SpellsMembers false members text) (rest : List Char) : Follows (text ++ rest) := by
  cases members with
  | nil =>
    obtain ⟨gap, blank, rfl⟩ := spelled
    rw [List.append_assoc]
    exact follows_gap blank (by decide) _
  | cons member members =>
    obtain ⟨mark, _, _, body, more, ⟨before, after, blank, -, rfl⟩, -, -, -, -, rfl⟩ := spelled
    rw [List.append_assoc, List.append_assoc]
    exact follows_gap blank (by decide) _

theorem items_length {first : Bool} {items : List Json} {text : List Char}
    (spelled : SpellsItems first items text) : items.length < text.length := by
  induction items generalizing first text with
  | nil =>
    obtain ⟨gap, -, rfl⟩ := spelled
    simp
  | cons item items ih =>
    obtain ⟨mark, body, more, -, spelled, others, rfl⟩ := spelled
    obtain ⟨c, tail, rfl, -⟩ := spells_opens spelled
    have shorter := ih others
    simp only [List.length_cons, List.length_append]
    omega

section Lists

variable {item : Reader α} {values : List Json} {xs : List α}

theorem readItems_cons {fuel : Nat} {first : Bool} {mark body rest rest' : List Char}
    (separates : Separates first mark) (spelled : Spells v body)
    (read : item (body ++ rest) = .ok (x, rest')) :
    readItems item (fuel + 1) first (mark ++ (body ++ rest)) =
      (readItems item fuel false rest').map fun (xs, rest) => (x :: xs, rest) := by
  obtain ⟨c, more, rfl, visible, other⟩ := spells_opens spelled
  rw [List.cons_append] at read ⊢
  simp only [readItems, nextItem_more separates visible other, read, bind, Except.bind, if_true]
  cases readItems item fuel false rest' <;> rfl

theorem readItems_reads (reads : List.Forall₂ (Reads item) values xs) :
    ∀ {first : Bool} {fuel : Nat} {text : List Char} (rest : List Char),
      SpellsItems first values text → values.length < fuel →
        readItems item fuel first (text ++ rest) = .ok (xs, rest) := by
  induction reads with
  | nil =>
    intro first fuel text rest spelled enough
    obtain ⟨fuel, rfl⟩ := Nat.exists_eq_add_one.2 enough
    obtain ⟨gap, blank, rfl⟩ := spelled
    rw [List.append_assoc, List.singleton_append]
    simp [readItems, nextItem_end first blank, closeList_end, bind, Except.bind, pure, Except.pure]
  | cons read _ ih =>
    intro first fuel text rest spelled enough
    obtain ⟨fuel, rfl⟩ := Nat.exists_eq_add_one.2 (Nat.zero_lt_of_lt enough)
    obtain ⟨mark, body, more, separates, body_spelled, others, rfl⟩ := spelled
    have first := read .nil body_spelled (items_follow others rest)
    rw [List.append_assoc, List.append_assoc, readItems_cons separates body_spelled first,
      ih rest others (Nat.lt_of_succ_lt_succ enough)]
    rfl

theorem readList_reads (reads : List.Forall₂ (Reads item) values xs) :
    Reads (readList item) (.list values) xs := by
  intro gap text rest blank spelled _
  obtain ⟨inner, spelled, rfl⟩ := spelled
  have enough := items_length spelled
  rw [List.cons_append]
  simp only [readList, skipSpace_gap blank (show isSpace '[' = false from rfl)]
  apply readItems_reads reads rest spelled
  rw [List.length_append]
  omega

theorem readItems_refuses (reads : List.Forall₂ (Reads item) values xs) {bad : Json}
    (refuses : Refuses item bad) (others : List Json) :
    ∀ {first : Bool} {fuel : Nat} {text : List Char} (rest : List Char),
      SpellsItems first (values ++ bad :: others) text →
        ∃ fault, readItems item fuel first (text ++ rest) = .error fault := by
  induction reads with
  | nil =>
    intro first fuel text rest spelled
    obtain ⟨mark, body, more, separates, body_spelled, others, rfl⟩ := spelled
    cases fuel with
    | zero => exact ⟨_, rfl⟩
    | succ fuel =>
      obtain ⟨fault, failed⟩ := refuses .nil body_spelled (items_follow others rest)
      obtain ⟨c, tail, rfl, visible, other⟩ := spells_opens body_spelled
      rw [List.nil_append, List.cons_append] at failed
      rw [List.append_assoc, List.append_assoc, List.cons_append]
      refine ⟨fault, ?_⟩
      simp only [readItems, nextItem_more separates visible other, failed, bind, Except.bind,
        if_true]
  | cons read _ ih =>
    intro first fuel text rest spelled
    obtain ⟨mark, body, more, separates, body_spelled, others, rfl⟩ := spelled
    cases fuel with
    | zero => exact ⟨_, rfl⟩
    | succ fuel =>
      have first := read .nil body_spelled (items_follow others rest)
      have later : ∃ fault, readItems item fuel false (more ++ rest) = .error fault :=
        ih rest others
      obtain ⟨fault, failed⟩ := later
      refine ⟨fault, ?_⟩
      rw [List.append_assoc, List.append_assoc, readItems_cons separates body_spelled first, failed]
      rfl

theorem readList_refuses (reads : List.Forall₂ (Reads item) values xs) {bad : Json}
    (refuses : Refuses item bad) (others : List Json) :
    Refuses (readList item) (.list (values ++ bad :: others)) := by
  intro gap text rest blank spelled _
  obtain ⟨inner, spelled, rfl⟩ := spelled
  rw [List.cons_append]
  simp only [readList, skipSpace_gap blank (show isSpace '[' = false from rfl)]
  exact readItems_refuses reads refuses others rest spelled

end Lists

section Objects

theorem members_length {first : Bool} {members : List (String × Json)} {text : List Char}
    (spelled : SpellsMembers first members text) : members.length < text.length := by
  induction members generalizing first text with
  | nil =>
    obtain ⟨gap, -, rfl⟩ := spelled
    simp
  | cons member members ih =>
    obtain ⟨mark, before, after, body, more, -, -, -, -, others, rfl⟩ := spelled
    have shorter := ih others
    simp only [List.length_cons, List.length_append]
    omega

/-- The text of a member, taken apart for a reader that has come to its value. -/
theorem member_parts {first : Bool} {key : String} {members : List (String × Json)}
    {text : List Char} (spelled : SpellsMembers first ((key, v) :: members) text)
    (rest : List Char) : ∃ afterKey after body more, Gap after ∧ Spells v body ∧
      SpellsMembers false members more ∧
      nextKey first (text ++ rest) = .ok (some key, afterKey) ∧
      colon afterKey = .ok (after ++ (body ++ (more ++ rest))) := by
  obtain ⟨mark, before, after, body, more, separates, blank, blank', spelled, others, rfl⟩ :=
    spelled
  refine ⟨_, after, body, more, blank', spelled, others, ?_,
    colon_gap blank (after ++ (body ++ (more ++ rest)))⟩
  simp only [List.append_assoc, List.cons_append]
  exact nextKey_more separates key

theorem members_end {first : Bool} {text : List Char} (spelled : SpellsMembers first [] text)
    (rest : List Char) : nextKey first (text ++ rest) = .ok (none, rest) := by
  obtain ⟨gap, blank, rfl⟩ := spelled
  rw [List.append_assoc]
  exact nextKey_end first blank

theorem insertEntry_last {key : String} {entries : List (String × α)}
    (above : ∀ entry ∈ entries, entry.1 < key) (x : α) :
    KeyTable.insertEntry key x entries = entries ++ [(key, x)] := by
  induction entries with
  | nil => rfl
  | cons entry entries ih =>
    obtain ⟨less, others⟩ := List.forall_mem_cons.1 above
    have after : ¬key < entry.1 := fun greater => String.lt_irrefl _ (String.lt_trans less greater)
    have other : key ≠ entry.1 := fun same => String.lt_irrefl _ (same ▸ less)
    rw [KeyTable.insertEntry, if_neg after, if_neg other, ih others, List.cons_append]

/-- Entries that are read in ascending order are put one after the other. -/
theorem readEntries_reads {write : α → Json} {entries : List (String × α)}
    (reads : ∀ entry ∈ entries, Reads read (write entry.2) entry.2) :
    ∀ {first : Bool} {fuel : Nat} {text : List Char} (table : KeyTable α) (rest : List Char)
      (ascending : (table.entries ++ entries).Pairwise fun a b => a.1 < b.1),
      SpellsMembers first (entries.map fun (key, x) => (key, write x)) text →
        entries.length < fuel → readEntries read fuel first table (text ++ rest) =
          .ok (⟨table.entries ++ entries, ascending⟩, rest) := by
  induction entries with
  | nil =>
    intro first fuel text table rest ascending spelled enough
    obtain ⟨fuel, rfl⟩ := Nat.exists_eq_add_one.2 enough
    simp only [readEntries, members_end spelled, bind, Except.bind, pure, Except.pure,
      List.append_nil]
  | cons entry entries ih =>
    obtain ⟨first_reads, others_read⟩ := List.forall_mem_cons.1 reads
    intro first fuel text table rest ascending spelled enough
    obtain ⟨fuel, rfl⟩ := Nat.exists_eq_add_one.2 (Nat.zero_lt_of_lt enough)
    obtain ⟨afterKey, after, body, more, blank, spelled, others, next, colon⟩ :=
      member_parts spelled rest
    have above : ∀ e ∈ table.entries, e.1 < entry.1 := fun e listed =>
      (List.pairwise_append.1 ascending).2.2 e listed entry List.mem_cons_self
    have inserted : (table.insert entry.1 entry.2).entries = table.entries ++ [entry] :=
      insertEntry_last above entry.2
    have joined : (table.insert entry.1 entry.2).entries ++ entries =
        table.entries ++ entry :: entries := by rw [inserted, List.append_assoc]; rfl
    have later := ih others_read (table.insert entry.1 entry.2) rest (joined ▸ ascending) others
      (Nat.lt_of_succ_lt_succ enough)
    simp only [readEntries, next, colon, first_reads blank spelled (members_follow others rest),
      later, bind, Except.bind, joined]

theorem readTable_reads {write : α → Json} {table : KeyTable α}
    (reads : ∀ entry ∈ table.entries, Reads read (write entry.2) entry.2) :
    Reads (readTable read) (Json.table write table) table := by
  intro gap text rest blank spelled _
  obtain ⟨inner, spelled, rfl⟩ := spelled
  have enough : table.entries.length < (inner ++ rest).length + 1 := by
    have shorter := members_length spelled
    rw [List.length_map] at shorter
    rw [List.length_append]
    omega
  rw [List.cons_append]
  simp only [readTable, skipSpace_gap blank (show isSpace '\x7b' = false from rfl)]
  exact readEntries_reads reads .empty rest table.ascending spelled enough

end Objects

end RaceFarm.Json
