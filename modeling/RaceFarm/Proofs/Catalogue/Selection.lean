import Mathlib.Data.List.Find
import Mathlib.Data.List.Induction
import Mathlib.Data.List.Nodup
import RaceFarm.Catalogue

namespace RaceFarm

section FirstOccurrences

variable {α : Type} [BEq α] [LawfulBEq α] {a : α} {list : List α}

theorem eraseDups_concat_of_mem (known : a ∈ list) : (list ++ [a]).eraseDups = list.eraseDups := by
  simp [List.eraseDups_append, List.cons_removeAll, known]

theorem eraseDups_concat_of_notMem (fresh : a ∉ list) :
    (list ++ [a]).eraseDups = list.eraseDups ++ [a] := by
  simp [List.eraseDups_append, List.cons_removeAll, fresh, List.eraseDups_cons]

theorem nodup_eraseDups (list : List α) : list.eraseDups.Nodup := by
  induction list using List.reverseRecOn with
  | nil => simp
  | append_singleton list a ih =>
    by_cases known : a ∈ list
    · rwa [eraseDups_concat_of_mem known]
    · rw [eraseDups_concat_of_notMem known, ← List.concat_eq_append, List.nodup_concat]
      exact ⟨by rwa [List.mem_eraseDups], ih⟩

end FirstOccurrences

theorem Pipelines.ext_get? {p q : Pipelines} (same : ∀ id, p.get? id = q.get? id) : p = q := by
  have linuxBuild : p.linuxBuild = q.linuxBuild := same .linuxBuild
  have linuxSmall : p.linuxSmall = q.linuxSmall := same .linuxSmall
  have windows : p.windows = q.windows := same .windows
  cases p
  cases q
  rw [Pipelines.mk.injEq]
  exact ⟨linuxBuild, linuxSmall, windows⟩

namespace Catalogue

variable (c : Catalogue)

def Has (name : String) : Prop := ∃ b ∈ c.builders, b.name = name

/-- The builder that its name stands for: no other of that name is listed before it. -/
def IsFirst (b : Builder) : Prop :=
  ∃ before after, c.builders = before ++ b :: after ∧ ∀ d ∈ before, d.name ≠ b.name

/-- The name is the first of the list that no builder has. -/
def FirstUnknown (names : List String) (name : String) : Prop :=
  ∃ before after, names = before ++ name :: after ∧ (∀ n ∈ before, c.Has n) ∧ ¬c.Has name

/-- What a selection by name leaves of a catalogue. -/
structure Selects (names : List String) (s : Catalogue) : Prop where
  -- In the order in which each name is given first.
  named : s.builders.map Builder.name = names.eraseDups
  distinct : (s.builders.map Builder.name).Nodup
  first : ∀ b ∈ s.builders, c.IsFirst b
  pipelines : ∀ id p, s.pipelines.get? id = some p ↔
    c.pipelines.get? id = some p ∧ ∃ b ∈ s.builders, b.pipeline = id

/-- How a selection by at least one name ends. -/
structure SelectsOrReports (names : List String) : Prop where
  fails_iff : (∃ error, c.select names = .error error) ↔ ∃ name ∈ names, ¬c.Has name
  reports : ∀ error, c.select names = .error error →
    ∃ name, error = .unknownBuilder name ∧ c.FirstUnknown names name
  selects : ∀ s, c.select names = .ok s → c.Selects names s

/-- The builders that the names stand for, in the order in which each is named first. -/
def firsts (names : List String) : List Builder := names.eraseDups.filterMap c.builder?

def restrict (builders : List Builder) : Catalogue where
  builders := builders
  pipelines := .ofFn fun id =>
    if builders.any (·.pipeline = id) then c.pipelines.get? id else none

def unknown? (names : List String) : Option String :=
  names.find? fun name => (c.builder? name).isNone

variable {c} {b : Builder} {name : String} {names : List String}

theorem builder?_name (found : c.builder? name = some b) : b.name = name := by
  simpa using List.find?_some found

theorem builder?_eq_none_iff : c.builder? name = none ↔ ¬c.Has name := by
  simp [builder?, Has]

theorem isFirst_of_builder? (found : c.builder? name = some b) : c.IsFirst b := by
  obtain ⟨named, before, after, listed, others⟩ := List.find?_eq_some_iff_append.1 found
  refine ⟨before, after, listed, fun d earlier => ?_⟩
  rw [builder?_name found]
  simpa using others d earlier

theorem mem_firsts : b ∈ c.firsts names ↔ ∃ name ∈ names, c.builder? name = some b := by
  simp only [firsts, List.mem_filterMap, List.mem_eraseDups]

theorem mem_firsts_of_builder? (found : c.builder? name = some b) :
    b ∈ c.firsts names ↔ name ∈ names := by
  rw [mem_firsts]
  constructor
  · rintro ⟨other, listed, found'⟩
    rwa [← builder?_name found, builder?_name found']
  · intro listed
    exact ⟨name, listed, found⟩

theorem any_firsts_iff (found : c.builder? name = some b) :
    (c.firsts names).any (·.name = b.name) = true ↔ name ∈ names := by
  rw [← mem_firsts_of_builder? found, List.any_eq_true]
  constructor
  -- Whatever has been picked under the name is what the name stands for.
  · rintro ⟨d, picked, same⟩
    obtain ⟨other, -, found'⟩ := mem_firsts.1 picked
    have same : other = name := by
      rw [← builder?_name found', ← builder?_name found]
      simpa using same
    rw [same, found] at found'
    rwa [Option.some.inj found']
  · intro picked
    exact ⟨b, picked, by simp⟩

theorem firsts_concat (found : c.builder? name = some b) :
    c.firsts (names ++ [name]) =
      if (c.firsts names).any (·.name = b.name) then c.firsts names else c.firsts names ++ [b] := by
  by_cases known : name ∈ names
  · rw [if_pos ((any_firsts_iff found).2 known), firsts, eraseDups_concat_of_mem known, firsts]
  · rw [if_neg (by rwa [any_firsts_iff found]), firsts, eraseDups_concat_of_notMem known,
      List.filterMap_append, List.filterMap_cons_some found, List.filterMap_nil, firsts]

theorem pick_firsts (seen names : List String) :
    c.pick names (c.firsts seen) =
      match c.unknown? names with
      | some name => .error (.unknownBuilder name)
      | none => .ok (c.firsts (seen ++ names)) := by
  -- The names seen so far account for what has been picked; they grow by one name at each step.
  induction names generalizing seen with
  | nil => simp [pick, unknown?]
  | cons name names ih =>
    cases found : c.builder? name with
    | none => simp [pick, unknown?, found]
    | some b =>
      have next : c.unknown? (name :: names) = c.unknown? names := by simp [unknown?, found]
      have step : c.pick (name :: names) (c.firsts seen) =
          c.pick names (c.firsts (seen ++ [name])) := by
        rw [firsts_concat found]
        simp only [pick, found]
      rw [step, ih, next, List.append_assoc, List.singleton_append]

theorem select_eq (filled : names ≠ []) :
    c.select names =
      match c.unknown? names with
      | some name => .error (.unknownBuilder name)
      | none => .ok (c.restrict (c.firsts names)) := by
  have picked : c.pick names [] = _ := pick_firsts [] names
  rw [List.nil_append] at picked
  rw [select, if_neg filled, picked]
  cases c.unknown? names <;> rfl

theorem unknown?_eq_none_iff : c.unknown? names = none ↔ ∀ name ∈ names, c.Has name := by
  simp only [unknown?, List.find?_eq_none, Option.isNone_iff_eq_none, builder?_eq_none_iff,
    not_not]

theorem firstUnknown_of_unknown? (found : c.unknown? names = some name) :
    c.FirstUnknown names name := by
  obtain ⟨unknown, before, after, listed, known⟩ := List.find?_eq_some_iff_append.1 found
  refine ⟨before, after, listed, fun n earlier => ?_, ?_⟩
  · have has := known n earlier
    rw [Bool.not_eq_true', Option.isNone_eq_false_iff, ← Option.ne_none_iff_isSome] at has
    rwa [ne_eq, builder?_eq_none_iff, not_not] at has
  · rwa [← builder?_eq_none_iff, ← Option.isNone_iff_eq_none]

theorem select_cases (filled : names ≠ []) :
    (∃ name, c.FirstUnknown names name ∧ c.select names = .error (.unknownBuilder name)) ∨
    ((∀ name ∈ names, c.Has name) ∧ c.select names = .ok (c.restrict (c.firsts names))) := by
  rw [select_eq filled]
  cases found : c.unknown? names with
  | some name => exact .inl ⟨name, firstUnknown_of_unknown? found, rfl⟩
  | none => exact .inr ⟨unknown?_eq_none_iff.1 found, rfl⟩

theorem select_of_known (filled : names ≠ []) (known : ∀ name ∈ names, c.Has name) :
    c.select names = .ok (c.restrict (c.firsts names)) := by
  rw [select_eq filled, unknown?_eq_none_iff.2 known]

theorem eq_restrict_of_select {s : Catalogue} (filled : names ≠ [])
    (selected : c.select names = .ok s) :
    (∀ name ∈ names, c.Has name) ∧ s = c.restrict (c.firsts names) := by
  rcases select_cases filled with ⟨name, -, refused⟩ | ⟨known, accepted⟩
  · cases selected.symm.trans refused
  · exact ⟨known, Except.ok.inj (selected.symm.trans accepted)⟩

theorem FirstUnknown.mem (unknown : c.FirstUnknown names name) : name ∈ names ∧ ¬c.Has name := by
  obtain ⟨before, after, rfl, -, missing⟩ := unknown
  exact ⟨by simp, missing⟩

theorem firsts_names (known : ∀ name ∈ names, c.Has name) :
    (c.firsts names).map Builder.name = names.eraseDups := by
  rw [firsts, List.map_filterMap]
  have itself : ∀ name ∈ names.eraseDups, (c.builder? name).map Builder.name = some name := by
    intro name listed
    cases found : c.builder? name with
    | none => exact absurd (known name (List.mem_eraseDups.1 listed)) (builder?_eq_none_iff.1 found)
    | some b => rw [Option.map_some, builder?_name found]
  rw [List.filterMap_congr itself, List.filterMap_some]

theorem restrict_pipeline (builders : List Builder) (id : PipelineId) :
    (c.restrict builders).pipelines.get? id =
      if ∃ b ∈ builders, b.pipeline = id then c.pipelines.get? id else none := by
  simp only [restrict, Pipelines.get?_ofFn, List.any_eq_true, decide_eq_true_eq]

theorem selects_firsts (known : ∀ name ∈ names, c.Has name) :
    c.Selects names (c.restrict (c.firsts names)) where
  named := firsts_names known
  distinct := by
    rw [show (c.restrict (c.firsts names)).builders = c.firsts names from rfl, firsts_names known]
    exact nodup_eraseDups names
  first b picked := by
    obtain ⟨name, -, found⟩ := mem_firsts.1 picked
    exact isFirst_of_builder? found
  pipelines id p := by
    rw [restrict_pipeline]
    by_cases used : ∃ b ∈ c.firsts names, b.pipeline = id
    · rw [if_pos used]
      exact (and_iff_left used).symm
    · rw [if_neg used]
      exact iff_of_false nofun fun kept => used kept.2

theorem selectsOrReports (filled : names ≠ []) : c.SelectsOrReports names where
  fails_iff := by
    rcases select_cases filled with ⟨name, unknown, refused⟩ | ⟨known, accepted⟩
    · exact iff_of_true ⟨_, refused⟩ ⟨name, unknown.mem⟩
    · refine iff_of_false (fun ⟨error, refused⟩ => ?_) fun ⟨name, listed, missing⟩ =>
        missing (known name listed)
      cases accepted.symm.trans refused
  reports error failed := by
    rcases select_cases filled with ⟨name, unknown, refused⟩ | ⟨-, accepted⟩
    · exact ⟨name, Except.error.inj (failed.symm.trans refused), unknown⟩
    · cases failed.symm.trans accepted
  selects s selected := by
    obtain ⟨known, rfl⟩ := eq_restrict_of_select filled selected
    exact selects_firsts known

section Narrowing

variable {wide narrow : List String} (within : ∀ name ∈ narrow, name ∈ wide)

include within

theorem restrict_builder? (name : String) (listed : name ∈ narrow) :
    (c.restrict (c.firsts wide)).builder? name = c.builder? name := by
  cases found : (c.restrict (c.firsts wide)).builder? name with
  | none =>
    cases found' : c.builder? name with
    | none => rfl
    | some b =>
      have picked := (mem_firsts_of_builder? found').2 (within name listed)
      exact absurd ⟨b, picked, builder?_name found'⟩ (builder?_eq_none_iff.1 found)
  | some b =>
    obtain ⟨other, -, found'⟩ := mem_firsts.1 (List.mem_of_find?_eq_some found)
    rwa [← builder?_name found, builder?_name found', eq_comm]

theorem restrict_unknown? : (c.restrict (c.firsts wide)).unknown? narrow = c.unknown? narrow :=
  List.find?_congr fun name listed => by rw [restrict_builder? within name listed]

theorem restrict_firsts : (c.restrict (c.firsts wide)).firsts narrow = c.firsts narrow :=
  List.filterMap_congr fun name listed =>
    restrict_builder? within name (List.mem_eraseDups.1 listed)

theorem restrict_restrict :
    (c.restrict (c.firsts wide)).restrict (c.firsts narrow) = c.restrict (c.firsts narrow) := by
  have kept : ∀ b ∈ c.firsts narrow, b ∈ c.firsts wide := by
    intro b picked
    obtain ⟨name, listed, found⟩ := mem_firsts.1 picked
    exact mem_firsts.2 ⟨name, within name listed, found⟩
  have same : ((c.restrict (c.firsts wide)).restrict (c.firsts narrow)).pipelines =
      (c.restrict (c.firsts narrow)).pipelines := by
    apply Pipelines.ext_get?
    intro id
    rw [restrict_pipeline, restrict_pipeline, restrict_pipeline]
    by_cases used : ∃ b ∈ c.firsts narrow, b.pipeline = id
    · have used' : ∃ b ∈ c.firsts wide, b.pipeline = id :=
        used.imp fun b ⟨picked, runs⟩ => ⟨kept b picked, runs⟩
      rw [if_pos used, if_pos used', if_pos used]
    · rw [if_neg used, if_neg used]
  rw [Catalogue.mk.injEq]
  exact ⟨rfl, same⟩

theorem select_select {s : Catalogue} (filled : narrow ≠ []) (selected : c.select wide = .ok s) :
    s.select narrow = c.select narrow ∧ ∃ t, c.select narrow = .ok t := by
  have filled' : wide ≠ [] := by
    obtain ⟨name, listed⟩ := List.exists_mem_of_ne_nil narrow filled
    exact List.ne_nil_of_mem (within name listed)
  obtain ⟨known, rfl⟩ := eq_restrict_of_select filled' selected
  constructor
  · rw [select_eq filled, select_eq filled, restrict_unknown? within, restrict_firsts within,
      restrict_restrict within]
  · exact ⟨_, select_of_known filled fun name listed => known name (within name listed)⟩

end Narrowing

/-- A selection keeps what its names ask for, and a narrower one can be made of it as well as of the
    whole catalogue. -/
theorem select_composes (c : Catalogue) :
    (∀ names, names ≠ [] → c.SelectsOrReports names) ∧
    (∀ wide narrow s, c.select wide = .ok s → narrow ≠ [] → (∀ name ∈ narrow, name ∈ wide) →
      s.select narrow = c.select narrow ∧ ∃ t, c.select narrow = .ok t) ∧
    ∀ names s, c.select names = .ok s → s.select names = .ok s := by
  refine ⟨fun _ => selectsOrReports,
    fun wide narrow s selected filled within => select_select within filled selected,
    fun names s selected => ?_⟩
  by_cases filled : names = []
  · subst filled
    rfl
  · rw [(select_select (fun _ listed => listed) filled selected).1, selected]

/-- Of two builders of one name the first is kept, and a pipeline that is not there stays away. -/
theorem repeated_name_composes :
    let windows : Builder := ⟨"win", "vm51-m3", "full_win7", .windows⟩
    let small : Builder := ⟨"small", "vm60-m3", "full_linux_small", .linuxSmall⟩
    let c : Catalogue :=
      ⟨[windows, small, ⟨"win", "vm60-m3", "full_linux_build", .linuxBuild⟩],
        ⟨some ⟨[]⟩, none, some ⟨[]⟩⟩⟩
    let s : Catalogue := ⟨[small, windows], ⟨none, none, some ⟨[]⟩⟩⟩
    c.select ["small", "win", "small"] = .ok s ∧ c.Selects ["small", "win", "small"] s ∧
      s.select ["win"] = c.select ["win"] ∧
      s.select ["small", "win", "small"] = .ok s := by
  intro windows small c s
  have selected : c.select ["small", "win", "small"] = .ok s := by decide
  obtain ⟨lawful, composes, idempotent⟩ := select_composes c
  exact ⟨selected, (lawful _ (by decide)).selects s selected,
    (composes _ ["win"] s selected (by decide) (by decide)).1, idempotent _ s selected⟩

end Catalogue

end RaceFarm
