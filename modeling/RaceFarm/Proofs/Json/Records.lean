import RaceFarm.Proofs.Json.Collections

namespace RaceFarm.Json.Shape

variable {δ α : Type} {shape : Shape δ α} {draft : List String → δ}
  {members good others : List (String × Json)} {key : String} {v : Json}

/-- Some members of a record in any order, none of them twice. -/
structure Selects (good members : List (String × Json)) : Prop where
  listed : good ⊆ members
  distinct : (good.map Prod.fst).Nodup

/-- Drafts that are told by the keys which have been read, if each has the value that `members` give
    it. -/
structure Drafts (shape : Shape δ α) (draft : List String → δ) (members : List (String × Json)) :
    Prop where
  blank : draft [] = shape.blank
  filled : ∀ (keys : List String) (field : Field δ), field ∈ shape.fields →
    field.filled (draft keys) = decide (field.name ∈ keys)
  takes : ∀ member ∈ members, ∃ field, shape.fields.find? (·.name == member.1) = some field ∧
    ∀ keys, Reads (field.read (draft keys)) member.2 (draft (keys ++ [member.1]))

/-- A member that stops the reader: it is no field, has been read already, or cannot be read. -/
def Spoils (shape : Shape δ α) (d : δ) (key : String) (v : Json) : Prop :=
  ∀ field, shape.fields.find? (·.name == key) = some field →
    field.filled d = true ∨ Refuses (field.read d) v

theorem readMembers_field {field : Field δ} {d d' : δ} {first : Bool} {text : List Char}
    (found : shape.fields.find? (·.name == key) = some field) (unfilled : field.filled d = false)
    (reads : Reads (field.read d) v d')
    (spelled : SpellsMembers first ((key, v) :: members) text) (rest : List Char) :
    ∃ more, SpellsMembers false members more ∧ ∀ fuel,
      shape.readMembers (fuel + 1) first d (text ++ rest) =
        shape.readMembers fuel false d' (more ++ rest) := by
  obtain ⟨afterKey, after, body, more, blank, spelled, others, next, colon⟩ :=
    member_parts spelled rest
  refine ⟨more, others, fun fuel => ?_⟩
  have read := reads blank spelled (members_follow others rest)
  simp only [readMembers, next, found, unfilled, colon, read, Bool.false_eq_true, if_false, bind,
    Except.bind]

theorem readMembers_spoiled (closed : shape.closed = true) {d : δ} (spoils : shape.Spoils d key v)
    {first : Bool} {text : List Char} (spelled : SpellsMembers first ((key, v) :: members) text)
    (fuel : Nat) (rest : List Char) :
    ∃ fault, shape.readMembers fuel first d (text ++ rest) = .error fault := by
  obtain ⟨afterKey, after, body, more, blank, spelled, others, next, colon⟩ :=
    member_parts spelled rest
  cases fuel with
  | zero => exact ⟨_, rfl⟩
  | succ fuel =>
    cases found : shape.fields.find? (·.name == key) with
    | none =>
      refine ⟨.data (.unknownField key (shape.fields.map (·.name))), ?_⟩
      simp only [readMembers, next, found, closed, if_true, bind, Except.bind, throw, throwThe,
        MonadExceptOf.throw]
    | some field =>
      by_cases filled : field.filled d = true
      · refine ⟨.data (.duplicateField key), ?_⟩
        simp only [readMembers, next, found, filled, if_true, bind, Except.bind, throw, throwThe,
          MonadExceptOf.throw]
      · obtain ⟨fault, failed⟩ := (spoils field found).resolve_left filled blank spelled
          (members_follow others rest)
        refine ⟨fault, ?_⟩
        simp only [readMembers, next, found, filled, colon, failed, if_false, bind, Except.bind,
          Bool.false_eq_true]

namespace Drafts

/-- Members that are fields, each once, are read in any order and leave the reader at the others. -/
theorem readMembers (drafts : shape.Drafts draft members) :
    ∀ {good : List (String × Json)} (seen : List String) {first : Bool} {text : List Char}
      (rest : List Char), good ⊆ members → (seen ++ good.map Prod.fst).Nodup →
        SpellsMembers first (good ++ others) text →
          ∃ last more, SpellsMembers last others more ∧ ∀ fuel,
            shape.readMembers (fuel + good.length) first (draft seen) (text ++ rest) =
              shape.readMembers fuel last (draft (seen ++ good.map Prod.fst)) (more ++ rest) := by
  intro good
  induction good with
  | nil =>
    intro seen first text rest _ _ spelled
    exact ⟨first, text, spelled, fun fuel => by simp⟩
  | cons member good ih =>
    obtain ⟨key, v⟩ := member
    intro seen first text rest listed distinct spelled
    obtain ⟨field, found, reads⟩ := drafts.takes (key, v) (listed List.mem_cons_self)
    have named : field.name = key := by simpa using List.find?_some found
    have fresh : key ∉ seen := by
      intro again
      exact (List.nodup_append.1 distinct).2.2 key again key List.mem_cons_self rfl
    have unfilled : field.filled (draft seen) = false := by
      rw [drafts.filled seen field (List.mem_of_find?_eq_some found), named]
      simpa using fresh
    obtain ⟨more, spelled, step⟩ := readMembers_field found unfilled (reads seen) spelled rest
    have moved : seen ++ [key] ++ good.map Prod.fst = seen ++ ((key, v) :: good).map Prod.fst := by
      simp
    obtain ⟨last, left, spelled, run⟩ := ih (seen ++ [key]) rest
      (List.subset_of_cons_subset listed) (moved ▸ distinct) spelled
    refine ⟨last, left, spelled, fun fuel => ?_⟩
    rw [List.length_cons, ← Nat.add_assoc, step, run, moved]

theorem object_run (drafts : shape.Drafts draft members) (selects : Selects good members)
    {gap text : List Char} (rest : List Char) (blank : Gap gap)
    (spelled : Spells (.object (good ++ others)) text) :
    ∃ last more fuel, SpellsMembers last others more ∧ shape.read (gap ++ (text ++ rest)) = do
      let (d, rest) ← shape.readMembers (fuel + 1) last (draft (good.map Prod.fst)) (more ++ rest)
      return (← shape.complete d, rest) := by
  obtain ⟨inner, spelled, rfl⟩ := spelled
  have long := members_length spelled
  rw [List.length_append] at long
  obtain ⟨last, more, spelled, run⟩ :=
    drafts.readMembers [] rest selects.listed selects.distinct spelled
  refine ⟨last, more, (inner ++ rest).length - good.length, spelled, ?_⟩
  rw [List.nil_append] at run
  rw [← run, drafts.blank, List.cons_append]
  have fuel : (inner ++ rest).length - good.length + 1 + good.length =
      (inner ++ rest).length + 1 := by
    rw [List.length_append]
    omega
  simp only [read, skipSpace_gap blank (show isSpace '\x7b' = false from rfl), fuel]

theorem reads (drafts : shape.Drafts draft members) (selects : Selects good members) {x : α}
    (finished : shape.finish (draft (good.map Prod.fst)) = .ok x) :
    Reads shape.read (.object good) x := by
  intro gap text rest blank spelled _
  rw [← List.append_nil good] at spelled
  obtain ⟨last, more, fuel, spelled, run⟩ := drafts.object_run selects rest blank spelled
  rw [run]
  simp only [Shape.readMembers, members_end spelled, complete, finished, bind, Except.bind, pure,
    Except.pure, Except.mapError]

theorem refuses_unfinished (drafts : shape.Drafts draft members) (selects : Selects good members)
    {problem : Problem} (unfinished : shape.finish (draft (good.map Prod.fst)) = .error problem) :
    Refuses shape.read (.object good) := by
  intro gap text rest blank spelled _
  rw [← List.append_nil good] at spelled
  obtain ⟨last, more, fuel, spelled, run⟩ := drafts.object_run selects rest blank spelled
  refine ⟨.data problem, ?_⟩
  rw [run]
  simp only [Shape.readMembers, members_end spelled, complete, unfinished, bind, Except.bind, pure,
    Except.pure, Except.mapError]

/-- The first member that spoils an object is enough, whatever the others are. -/
theorem refuses (drafts : shape.Drafts draft members) (closed : shape.closed = true)
    (selects : Selects good members) (spoils : shape.Spoils (draft (good.map Prod.fst)) key v)
    (others : List (String × Json)) :
    Refuses shape.read (.object (good ++ (key, v) :: others)) := by
  intro gap text rest blank spelled _
  obtain ⟨last, more, fuel, spelled, run⟩ := drafts.object_run selects rest blank spelled
  obtain ⟨fault, failed⟩ := readMembers_spoiled closed spoils spelled (fuel + 1) rest
  exact ⟨fault, by rw [run, failed]; rfl⟩

theorem spoils_unknown (unknown : key ∉ shape.fields.map (·.name)) (d : δ) (v : Json) :
    shape.Spoils d key v := by
  intro field found
  have named : field.name = key := by simpa using List.find?_some found
  exact absurd (List.mem_map.2 ⟨field, List.mem_of_find?_eq_some found, named⟩) unknown

theorem spoils_repeated (drafts : shape.Drafts draft members) {keys : List String}
    (again : key ∈ keys) (v : Json) : shape.Spoils (draft keys) key v := by
  intro field found
  have named : field.name = key := by simpa using List.find?_some found
  left
  rw [drafts.filled keys field (List.mem_of_find?_eq_some found), named]
  exact decide_eq_true again

/-- One member too many stops the reader, wherever it stands. -/
theorem refuses_extra (drafts : shape.Drafts draft members) (closed : shape.closed = true)
    {front back : List (String × Json)} (selects : Selects (front ++ back) members)
    (extra : key ∉ shape.fields.map (·.name) ∨ (key, v) ∈ front ++ back) :
    Refuses shape.read (.object (front ++ (key, v) :: back)) := by
  obtain ⟨listed, distinct⟩ := selects
  have before : Selects front members := by
    refine ⟨fun m member => listed (List.mem_append_left back member), ?_⟩
    rw [List.map_append] at distinct
    exact (List.nodup_append.1 distinct).1
  rcases extra with unknown | again
  · exact drafts.refuses closed before (spoils_unknown unknown _ v) back
  · rcases List.mem_append.1 again with earlier | later
    · exact drafts.refuses closed before
        (drafts.spoils_repeated (List.mem_map_of_mem earlier) v) back
    -- The member that stood there first now comes second.
    · obtain ⟨between, after, rfl⟩ := List.append_of_mem later
      have moved : (front ++ (between ++ (key, v) :: after)).Perm
          (front ++ (key, v) :: between ++ after) := by
        rw [List.append_assoc]
        exact List.Perm.append_left front List.perm_middle
      have distinct' := (moved.map Prod.fst).nodup_iff.1 distinct
      rw [List.map_append] at distinct'
      have before' : Selects (front ++ (key, v) :: between) members :=
        ⟨fun m member => listed (moved.mem_iff.2 (List.mem_append_left after member)),
          (List.nodup_append.1 distinct').1⟩
      have again : key ∈ (front ++ (key, v) :: between).map Prod.fst := by simp
      have refused := drafts.refuses closed before' (drafts.spoils_repeated again v) after
      rwa [List.append_assoc] at refused

end Drafts

end RaceFarm.Json.Shape
