import Mathlib.Data.List.Forall2
import RaceFarm.Proofs.Json.Records
import RaceFarm.Settings

namespace RaceFarm

open Json (Reads Refuses)
open Json.Shape (Selects Drafts)

/-- A member is read and put into the draft. -/
theorem Json.Reads.put {δ α : Type} {read : Json.Reader α} {v : Json} {x : α}
    (reads : Reads read v x) (put : α → δ) {d : δ} (same : put x = d) :
    Reads (fun text => do
      let (y, rest) ← read text
      return (put y, rest)) v d := by
  intro gap text rest blank spelled follows
  simp only [reads blank spelled follows, bind, Except.bind, pure, Except.pure, same]

theorem Json.Refuses.put {δ α : Type} {read : Json.Reader α} {v : Json}
    (refuses : Refuses read v) (put : α → δ) :
    Refuses (fun text => do
      let (y, rest) ← read text
      return (put y, rest)) v := by
  intro gap text rest blank spelled follows
  obtain ⟨fault, failed⟩ := refuses blank spelled follows
  refine ⟨fault, ?_⟩
  simp only [failed, bind, Except.bind]

/-- The text of a finite double reads back as the same double. -/
def Binary64.ReadsBack (x : Binary64) : Prop :=
  x.isFinite = true ∧ Json.decode Json.readReal (String.ofList (Json.realText x)) = .ok x

theorem Binary64.ReadsBack.reads {x : Binary64} (exact : x.ReadsBack) :
    Reads Json.readReal (.real x) x := Json.readReal_reads exact.1 exact.2

namespace Expectation

def members (e : Expectation) : List (String × Json) :=
  [("improve", .real e.improve), ("regress", .real e.regress)]

def draft (e : Expectation) (keys : List String) : Draft where
  improve := if "improve" ∈ keys then some e.improve else none
  regress := if "regress" ∈ keys then some e.regress else none

theorem drafts {e : Expectation} (improve : e.improve.ReadsBack) (regress : e.regress.ReadsBack) :
    shape.Drafts e.draft e.members where
  blank := rfl
  filled keys field listed := by
    simp only [shape, List.mem_cons, List.not_mem_nil, or_false] at listed
    rcases listed with rfl | rfl <;> simp only [draft] <;> split <;> simp_all
  takes member listed := by
    simp only [members, List.mem_cons, List.not_mem_nil, or_false] at listed
    rcases listed with rfl | rfl
    · refine ⟨_, rfl, fun keys => improve.reads.put
        (fun x => { e.draft keys with improve := some x }) ?_⟩
      simp [draft]
    · refine ⟨_, rfl, fun keys => regress.reads.put
        (fun x => { e.draft keys with regress := some x }) ?_⟩
      simp [draft]

theorem reads {e : Expectation} (improve : e.improve.ReadsBack) (regress : e.regress.ReadsBack) :
    Reads reader e.toJson e := by
  have all : Selects e.members e.members := ⟨List.Subset.refl _, by simp [members]⟩
  exact (drafts improve regress).reads all rfl

end Expectation

namespace BenchmarkSettings

/-- Every bound is finite and reads back. -/
def Exact (b : BenchmarkSettings) : Prop :=
  ∀ entry ∈ b.expectations.entries, entry.2.improve.ReadsBack ∧ entry.2.regress.ReadsBack

def members (b : BenchmarkSettings) : List (String × Json) := [
  ("pipeline", b.pipeline.toJson),
  ("platform", .str b.platform),
  ("name", .str b.name),
  ("command", .str b.command),
  ("expectations", Expectations.toJson b.expectations)]

theorem toJson_eq (b : BenchmarkSettings) : b.toJson = .object b.members := rfl

def draft (b : BenchmarkSettings) (keys : List String) : Draft where
  pipeline := if "pipeline" ∈ keys then some b.pipeline else none
  platform := if "platform" ∈ keys then some b.platform else none
  name := if "name" ∈ keys then some b.name else none
  command := if "command" ∈ keys then some b.command else none
  expectations := if "expectations" ∈ keys then some b.expectations else none

theorem pipeline_reads (id : PipelineId) : Reads PipelineId.reader id.toJson id :=
  Json.readChoice_reads (by cases id <;> rfl)

theorem drafts {b : BenchmarkSettings} (exact : b.Exact) : shape.Drafts b.draft b.members where
  blank := rfl
  filled keys field listed := by
    simp only [shape, List.mem_cons, List.not_mem_nil, or_false] at listed
    rcases listed with rfl | rfl | rfl | rfl | rfl <;> simp only [draft] <;> split <;> simp_all
  takes member listed := by
    have expectations :
        Reads Expectations.reader (Expectations.toJson b.expectations) b.expectations :=
      Json.readTable_reads fun entry listed =>
        Expectation.reads (exact entry listed).1 (exact entry listed).2
    simp only [members, List.mem_cons, List.not_mem_nil, or_false] at listed
    rcases listed with rfl | rfl | rfl | rfl | rfl
    · refine ⟨_, rfl, fun keys => (pipeline_reads b.pipeline).put
        (fun x => { b.draft keys with pipeline := some x }) ?_⟩
      simp [draft]
    · refine ⟨_, rfl, fun keys => (Json.readString_reads b.platform).put
        (fun x => { b.draft keys with platform := some x }) ?_⟩
      simp [draft]
    · refine ⟨_, rfl, fun keys => (Json.readString_reads b.name).put
        (fun x => { b.draft keys with name := some x }) ?_⟩
      simp [draft]
    · refine ⟨_, rfl, fun keys => (Json.readString_reads b.command).put
        (fun x => { b.draft keys with command := some x }) ?_⟩
      simp [draft]
    · refine ⟨_, rfl, fun keys => expectations.put
        (fun x => { b.draft keys with expectations := some x }) ?_⟩
      simp [draft]

def names : List String := shape.fields.map (·.name)

def required : List String := (shape.fields.filter fun field => !field.optional).map (·.name)

/-- What is left of a benchmark by its members with these keys. -/
def kept (b : BenchmarkSettings) (keys : List String) : BenchmarkSettings :=
  { b with expectations := if "expectations" ∈ keys then b.expectations else .empty }

theorem required_eq : required = ["pipeline", "platform", "name", "command"] := rfl

/-- The first required member that is missing is reported. -/
theorem finish_draft (b : BenchmarkSettings) (keys : List String) :
    shape.finish (b.draft keys) =
      match required.find? fun key => decide (key ∉ keys) with
      | some key => .error (.missingField key)
      | none => .ok (b.kept keys) := by
  have kept : (if "expectations" ∈ keys then some b.expectations else none).getD .empty =
      (b.kept keys).expectations := by
    simp only [BenchmarkSettings.kept]
    split <;> rfl
  simp only [required_eq, shape, draft, kept, bind, Except.bind]
  by_cases pipeline : "pipeline" ∈ keys
  · by_cases platform : "platform" ∈ keys
    · by_cases name : "name" ∈ keys
      · by_cases command : "command" ∈ keys
        · simp [pipeline, platform, name, command, Json.require, BenchmarkSettings.kept, pure,
            Except.pure]
        · simp [pipeline, platform, name, command, Json.require]
      · simp [pipeline, platform, name, Json.require]
    · simp [pipeline, platform, Json.require]
  · simp [pipeline, Json.require]

/-- An object that stands for a benchmark: its members in any order, if need be without the
    expectations, which are empty then. -/
def Describes (v : Json) (b : BenchmarkSettings) : Prop :=
  ∃ (source : BenchmarkSettings) (fields : List (String × Json)), source.Exact ∧
    Selects fields source.members ∧ (∀ key ∈ required, key ∈ fields.map Prod.fst) ∧
    v = .object fields ∧ b = source.kept (fields.map Prod.fst)

/-- An object that would stand for a benchmark but for a member too many or too few. -/
inductive Spoiled : Json → Prop where
  | extra {source : BenchmarkSettings} {front back : List (String × Json)} {key : String} {v : Json}
      (exact : source.Exact) (selects : Selects (front ++ back) source.members)
      (extra : key ∉ names ∨ (key, v) ∈ front ++ back) :
      Spoiled (.object (front ++ (key, v) :: back))
  | incomplete {source : BenchmarkSettings} {fields : List (String × Json)} {key : String}
      (exact : source.Exact) (selects : Selects fields source.members) (needed : key ∈ required)
      (missing : key ∉ fields.map Prod.fst) : Spoiled (.object fields)

theorem Describes.reads {v : Json} {b : BenchmarkSettings} (describes : Describes v b) :
    Reads reader v b := by
  obtain ⟨source, fields, exact, selects, complete, rfl, rfl⟩ := describes
  apply (drafts exact).reads selects
  have none_missing : (required.find? fun key => decide (key ∉ fields.map Prod.fst)) = none :=
    List.find?_eq_none.2 fun key needed => by simpa using complete key needed
  rw [source.finish_draft, none_missing]

theorem Spoiled.refuses {v : Json} (spoiled : Spoiled v) : Refuses reader v := by
  cases spoiled with
  | extra exact selects extra => exact (drafts exact).refuses_extra rfl selects extra
  | @incomplete source fields key exact selects needed missing =>
    cases found : required.find? fun key => decide (key ∉ fields.map Prod.fst) with
    | none => exact absurd (decide_eq_true missing) (List.find?_eq_none.1 found key needed)
    | some first =>
      have unfinished : shape.finish (source.draft (fields.map Prod.fst)) =
          .error (.missingField first) := by rw [source.finish_draft, found]
      exact (drafts exact).refuses_unfinished selects unfinished

theorem describes_toJson {b : BenchmarkSettings} (exact : b.Exact) : Describes b.toJson b := by
  have distinct : (b.members.map Prod.fst).Nodup := by simp [members]
  refine ⟨b, b.members, exact, ⟨List.Subset.refl _, distinct⟩, ?_, rfl, rfl⟩
  simp [required_eq, members]

end BenchmarkSettings

namespace Settings

def Exact (s : Settings) : Prop := ∀ b ∈ s.benchmarks, b.Exact

/-- The members of settings, with texts for the benchmarks that need not be their own. -/
def membersWith (s : Settings) (benchmarks : List Json) : List (String × Json) := [
  ("svnurl", .str s.svnurl),
  ("valgrind_build_url", .str s.valgrindBuildUrl),
  ("windows_pin_root", .str s.windowsPinRoot),
  ("test_base_name", .str s.testBaseName),
  ("benchmarks", .list benchmarks)]

def members (s : Settings) : List (String × Json) :=
  s.membersWith (s.benchmarks.map BenchmarkSettings.toJson)

theorem toJson_eq (s : Settings) : s.toJson = .object s.members := rfl

def names : List String := shape.fields.map (·.name)

/-- What is left of settings by their members with these keys: the others are stock. -/
def kept (s : Settings) (keys : List String) : Settings where
  svnurl := if "svnurl" ∈ keys then s.svnurl else stock.svnurl
  valgrindBuildUrl :=
    if "valgrind_build_url" ∈ keys then s.valgrindBuildUrl else stock.valgrindBuildUrl
  windowsPinRoot := if "windows_pin_root" ∈ keys then s.windowsPinRoot else stock.windowsPinRoot
  testBaseName := if "test_base_name" ∈ keys then s.testBaseName else stock.testBaseName
  benchmarks := if "benchmarks" ∈ keys then s.benchmarks else stock.benchmarks

def draft (s : Settings) (keys : List String) : Draft where
  svnurl := if "svnurl" ∈ keys then some s.svnurl else none
  valgrindBuildUrl := if "valgrind_build_url" ∈ keys then some s.valgrindBuildUrl else none
  windowsPinRoot := if "windows_pin_root" ∈ keys then some s.windowsPinRoot else none
  testBaseName := if "test_base_name" ∈ keys then some s.testBaseName else none
  benchmarks := if "benchmarks" ∈ keys then some s.benchmarks else none

theorem finish_draft (s : Settings) (keys : List String) :
    shape.finish (s.draft keys) = .ok (s.kept keys) := by
  have filled : ∀ {α : Type} (p : Prop) [Decidable p] (x y : α),
      (if p then some x else none).getD y = if p then x else y := by
    intro α p _ x y
    split <;> rfl
  simp only [shape, draft, filled, kept]

theorem drafts {s : Settings} {values : List Json}
    (reads : List.Forall₂ (Reads BenchmarkSettings.reader) values s.benchmarks) :
    shape.Drafts s.draft (s.membersWith values) where
  blank := rfl
  filled keys field listed := by
    simp only [shape, List.mem_cons, List.not_mem_nil, or_false] at listed
    rcases listed with rfl | rfl | rfl | rfl | rfl <;> simp only [draft] <;> split <;> simp_all
  takes member listed := by
    simp only [membersWith, List.mem_cons, List.not_mem_nil, or_false] at listed
    rcases listed with rfl | rfl | rfl | rfl | rfl
    · refine ⟨_, rfl, fun keys => (Json.readString_reads s.svnurl).put
        (fun x => { s.draft keys with svnurl := some x }) ?_⟩
      simp [draft]
    · refine ⟨_, rfl, fun keys => (Json.readString_reads s.valgrindBuildUrl).put
        (fun x => { s.draft keys with valgrindBuildUrl := some x }) ?_⟩
      simp [draft]
    · refine ⟨_, rfl, fun keys => (Json.readString_reads s.windowsPinRoot).put
        (fun x => { s.draft keys with windowsPinRoot := some x }) ?_⟩
      simp [draft]
    · refine ⟨_, rfl, fun keys => (Json.readString_reads s.testBaseName).put
        (fun x => { s.draft keys with testBaseName := some x }) ?_⟩
      simp [draft]
    · refine ⟨_, rfl, fun keys => (Json.readList_reads reads).put
        (fun x => { s.draft keys with benchmarks := some x }) ?_⟩
      simp [draft]

theorem kept_members (s : Settings) (values : List Json) :
    s.kept ((s.membersWith values).map Prod.fst) = s := by
  simp [kept, membersWith]

theorem selects_all (s : Settings) (values : List Json) :
    Selects (s.membersWith values) (s.membersWith values) :=
  ⟨List.Subset.refl _, by simp [membersWith]⟩

theorem toJson_describes {s : Settings} (exact : s.Exact) :
    List.Forall₂ BenchmarkSettings.Describes (s.benchmarks.map BenchmarkSettings.toJson)
      s.benchmarks := by
  rw [List.forall₂_map_left_iff, List.forall₂_same]
  exact fun b listed => BenchmarkSettings.describes_toJson (exact b listed)

theorem reads_described {s : Settings} {values : List Json} {bs : List BenchmarkSettings}
    (described : List.Forall₂ BenchmarkSettings.Describes values bs)
    {members : List (String × Json)} (selects : Selects members (s.membersWith values)) :
    Reads reader (.object members) ({ s with benchmarks := bs }.kept (members.map Prod.fst)) := by
  have reads : List.Forall₂ (Reads BenchmarkSettings.reader) values bs :=
    described.imp fun _ _ describes => describes.reads
  have own : shape.Drafts { s with benchmarks := bs }.draft (s.membersWith values) :=
    drafts (s := { s with benchmarks := bs }) reads
  exact own.reads selects (finish_draft _ _)

theorem mem_membersWith {s : Settings} {values values' : List Json} {member : String × Json}
    (listed : member ∈ s.membersWith values) (other : member.1 ≠ "benchmarks") :
    member ∈ s.membersWith values' := by
  simp only [membersWith, List.mem_cons, List.not_mem_nil, or_false] at listed ⊢
  rcases listed with rfl | rfl | rfl | rfl | rfl
  · simp
  · simp
  · simp
  · simp
  · exact absurd rfl other

theorem benchmarks_spoil {values : List Json}
    (refuses : Refuses (Json.readList BenchmarkSettings.reader) (.list values)) (d : Draft) :
    shape.Spoils d "benchmarks" (.list values) := by
  intro field found
  change some _ = some field at found
  obtain rfl := Option.some.inj found
  exact .inr (refuses.put fun x => { d with benchmarks := some x })

theorem refuses_spoiled {s : Settings} {values : List Json} {bs : List BenchmarkSettings}
    (described : List.Forall₂ BenchmarkSettings.Describes values bs) {v : Json}
    (spoiled : BenchmarkSettings.Spoiled v) {others : List Json} {members : List (String × Json)}
    (selects : Selects members (s.membersWith (values ++ v :: others)))
    (given : "benchmarks" ∈ members.map Prod.fst) : Refuses reader (.object members) := by
  obtain ⟨listed, distinct⟩ := selects
  obtain ⟨⟨key, w⟩, here, rfl⟩ := List.mem_map.1 given
  have value : w = .list (values ++ v :: others) := by
    simpa [membersWith] using listed here
  subst value
  obtain ⟨front, back, rfl⟩ := List.append_of_mem here
  rw [List.map_append] at distinct
  obtain ⟨front_distinct, -, apart⟩ := List.nodup_append.1 distinct
  have before : Selects front (s.membersWith []) := by
    refine ⟨fun member early => ?_, front_distinct⟩
    refine mem_membersWith (listed (List.mem_append_left _ early)) ?_
    exact apart member.1 (List.mem_map_of_mem early) "benchmarks" List.mem_cons_self
  have own : shape.Drafts { s with benchmarks := [] }.draft (s.membersWith []) :=
    drafts (s := { s with benchmarks := [] }) .nil
  have reads : List.Forall₂ (Reads BenchmarkSettings.reader) values bs :=
    described.imp fun _ _ describes => describes.reads
  exact own.refuses rfl before
    (benchmarks_spoil (Json.readList_refuses reads spoiled.refuses others) _) back

/-- Every text of the value loads as the settings. -/
def Loads (v : Json) (s : Settings) : Prop :=
  ∀ text, Json.Document v text → Json.decode reader text = .ok s

def Fails (v : Json) : Prop :=
  ∀ text, Json.Document v text → ∃ fault, Json.decode reader text = .error fault

/-- Which objects that are made of members of these settings load, and as what. -/
structure LoadsByField (s : Settings) : Prop where
  fields : ∀ members, Selects members s.members →
    Loads (.object members) (s.kept (members.map Prod.fst))
  roundTrip : Loads s.toJson s ∧ Json.decode reader s.toJson.compact = .ok s ∧
    Json.decode reader s.toJson.indented = .ok s
  extra : ∀ front back key v, Selects (front ++ back) s.members →
    (key ∉ names ∨ (key, v) ∈ front ++ back) → Fails (.object (front ++ (key, v) :: back))
  benchmarks : ∀ values bs members, List.Forall₂ BenchmarkSettings.Describes values bs →
    Selects members (s.membersWith values) →
      Loads (.object members) ({ s with benchmarks := bs }.kept (members.map Prod.fst))
  spoiled : ∀ values bs v others members, List.Forall₂ BenchmarkSettings.Describes values bs →
    BenchmarkSettings.Spoiled v → Selects members (s.membersWith (values ++ v :: others)) →
      "benchmarks" ∈ members.map Prod.fst → Fails (.object members)

/-- Settings load field by field, in any order and with defaults, if their bounds read back. -/
theorem loads_byField (s : Settings) (exact : s.Exact) : s.LoadsByField := by
  have own : List.Forall₂ BenchmarkSettings.Describes
      (s.benchmarks.map BenchmarkSettings.toJson) s.benchmarks := toJson_describes exact
  have drafts : shape.Drafts s.draft s.members :=
    drafts (own.imp fun _ _ describes => describes.reads)
  constructor
  · intro members selects text document
    exact (reads_described own selects).decode document
  · have reads := reads_described own (s.selects_all _)
    rw [kept_members] at reads
    exact ⟨fun text document => reads.decode document,
      reads.decode (Json.document_compact s.toJson),
      reads.decode (Json.document_indented s.toJson)⟩
  · intro front back key v selects extra text document
    exact Json.Refuses.decode (drafts.refuses_extra rfl selects extra) document
  · intro values bs members described selects text document
    exact (reads_described described selects).decode document
  · intro values bs v others members described spoiled selects given text document
    exact Json.Refuses.decode (refuses_spoiled described spoiled selects given) document

theorem bigtest_loads_byField :
    let improve : Binary64 := .finite false ⟨0x4056800000000000, by decide⟩
    let regress : Binary64 := .finite false ⟨0x405b800000000000, by decide⟩
    let bigtest : BenchmarkSettings := {
      pipeline := .linuxSmall
      platform := "linux"
      name := "bigtest"
      command := "./tsan.sh unittest/bin/bigtest"
      expectations := KeyTable.empty.insert "time/total" ⟨improve, regress⟩ }
    let s := { stock with svnurl := "svn://mirror/trunk", benchmarks := [bigtest] }
    s.Exact ∧ s.LoadsByField := by
  intro improve regress bigtest s
  have read : ∀ {e : Except Json.Fault Binary64} {x : Binary64},
      e.toOption = some x → e = .ok x := by
    intro e x same
    cases e <;> cases same
    rfl
  have improves : improve.ReadsBack := ⟨rfl, read (by decide +kernel)⟩
  have regresses : regress.ReadsBack := ⟨rfl, read (by decide +kernel)⟩
  have exact : s.Exact := by
    intro b listed entry given
    obtain rfl : b = bigtest := List.mem_singleton.1 listed
    obtain rfl : entry = ("time/total", ⟨improve, regress⟩) := List.mem_singleton.1 given
    exact ⟨improves, regresses⟩
  exact ⟨exact, loads_byField s exact⟩

end Settings

end RaceFarm
