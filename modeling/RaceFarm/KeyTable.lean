namespace RaceFarm

/-- A finite map from text, kept in ascending order of its keys, each of which occurs once. -/
structure KeyTable (α : Type) where
  entries : List (String × α)
  ascending : entries.Pairwise fun a b => a.1 < b.1
deriving DecidableEq

namespace KeyTable

variable {α : Type}

def empty : KeyTable α := ⟨[], .nil⟩

instance : Inhabited (KeyTable α) := ⟨empty⟩

/-- Puts the entry at its place in an ascending list, over an older one of the same key. -/
def insertEntry (key : String) (value : α) : List (String × α) → List (String × α)
  | [] => [(key, value)]
  | entry :: rest =>
    if key < entry.1 then (key, value) :: entry :: rest
    else if key = entry.1 then (key, value) :: rest
    else entry :: insertEntry key value rest

theorem mem_insertEntry {key : String} {value : α} {entries : List (String × α)}
    {entry : String × α} (h : entry ∈ insertEntry key value entries) :
    entry = (key, value) ∨ entry ∈ entries := by
  induction entries with
  | nil => simpa [insertEntry] using h
  | cons first rest ih =>
    unfold insertEntry at h
    split at h
    · simpa using h
    · split at h
      · rcases List.mem_cons.1 h with h | h
        · exact .inl h
        · exact .inr (List.mem_cons_of_mem _ h)
      · rcases List.mem_cons.1 h with rfl | h
        · exact .inr List.mem_cons_self
        · exact (ih h).imp_right (List.mem_cons_of_mem _)

theorem insertEntry_ascending {key : String} {value : α} {entries : List (String × α)}
    (h : entries.Pairwise fun a b => a.1 < b.1) :
    (insertEntry key value entries).Pairwise fun a b => a.1 < b.1 := by
  induction entries with
  | nil => simp [insertEntry]
  | cons first rest ih =>
    have tail := (List.pairwise_cons.1 h).2
    have head := (List.pairwise_cons.1 h).1
    unfold insertEntry
    split
    · rename_i less
      refine List.pairwise_cons.2 ⟨fun entry member => ?_, h⟩
      rcases List.mem_cons.1 member with rfl | member
      · exact less
      · exact String.lt_trans less (head _ member)
    · split
      · rename_i same
        exact List.pairwise_cons.2 ⟨fun entry member => same ▸ head _ member, tail⟩
      · rename_i notLess notSame
        have greater : first.1 < key :=
          Std.lt_of_le_of_ne (String.not_lt.1 notLess) (Ne.symm notSame)
        refine List.pairwise_cons.2 ⟨fun entry member => ?_, ih tail⟩
        rcases mem_insertEntry member with rfl | member
        · exact greater
        · exact head _ member

def insert (table : KeyTable α) (key : String) (value : α) : KeyTable α :=
  ⟨insertEntry key value table.entries, insertEntry_ascending table.ascending⟩

def get? (table : KeyTable α) (key : String) : Option α :=
  table.entries.lookup key

/-- Inserts in order, so that a later pair replaces an earlier one of its key. -/
def ofList (pairs : List (String × α)) : KeyTable α :=
  pairs.foldl (fun table pair => table.insert pair.1 pair.2) empty

end KeyTable

end RaceFarm
