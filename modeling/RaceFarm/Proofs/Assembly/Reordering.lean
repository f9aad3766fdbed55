import Mathlib.Data.List.Nodup
import Mathlib.Data.List.Perm.Basic
import RaceFarm.Proofs.Assembly.Reuse

namespace RaceFarm

namespace BuildRequest

/-- The request is for the binary of `v`, built with the given parameters. -/
def Makes (r : BuildRequest) (v : Variant) (parameters : BuildParameters) : Prop :=
  ∃ b, r.build = .ok b ∧ b.variant = v ∧ r.parameters = parameters

theorem Makes.unique {r : BuildRequest} {v w : Variant} {p q : BuildParameters}
    (makes : r.Makes v p) (makes' : r.Makes w q) : v = w ∧ p = q := by
  obtain ⟨b, accepted, rfl, rfl⟩ := makes
  obtain ⟨d, accepted', rfl, rfl⟩ := makes'
  obtain rfl : b = d := Except.ok.inj (accepted.symm.trans accepted')
  exact ⟨rfl, rfl⟩

/-- The two requests do not want one binary built in two ways. -/
def Agrees (r s : BuildRequest) : Prop :=
  ∀ v p q, r.Makes v p → s.Makes v q → p = q

theorem Agrees.refl (r : BuildRequest) : r.Agrees r :=
  fun _ _ _ makes makes' => (makes.unique makes').2

theorem Agrees.symm {r s : BuildRequest} (agree : r.Agrees s) : s.Agrees r :=
  fun v p q makes makes' => (agree v q p makes' makes).symm

theorem Makes.agrees_iff {r s : BuildRequest} {v : Variant} {p : BuildParameters}
    (makes : r.Makes v p) : s.Agrees r ↔ ∀ q, s.Makes v q → q = p := by
  constructor
  · intro agree q makes'
    exact agree v q p makes' makes
  · intro fits w q q' makes' again
    obtain ⟨rfl, rfl⟩ := makes.unique again
    exact fits q makes'

def Compatible (requests : List BuildRequest) : Prop :=
  (∀ r ∈ requests, ∃ v p, r.Makes v p) ∧ ∀ r ∈ requests, ∀ s ∈ requests, r.Agrees s

theorem compatible_perm {requests others : List BuildRequest} (same : others.Perm requests) :
    Compatible others ↔ Compatible requests := by
  simp only [Compatible, same.mem_iff]

theorem Compatible.of_append {past more : List BuildRequest}
    (compatible : Compatible (past ++ more)) : Compatible past :=
  ⟨fun r earlier => compatible.1 r (List.mem_append_left _ earlier),
    fun r earlier s earlier' => compatible.2 r (List.mem_append_left _ earlier) s
      (List.mem_append_left _ earlier')⟩

theorem compatible_concat_iff {past : List BuildRequest} {r : BuildRequest} :
    Compatible (past ++ [r]) ↔
      Compatible past ∧ (∃ v p, r.Makes v p) ∧ ∀ s ∈ past, s.Agrees r := by
  simp only [Compatible, List.forall_mem_append, List.forall_mem_singleton]
  constructor
  · rintro ⟨⟨each, last⟩, agree, -⟩
    exact ⟨⟨each, fun s earlier => (agree s earlier).1⟩, last, fun s earlier => (agree s earlier).2⟩
  · rintro ⟨⟨each, agree⟩, last, fits⟩
    exact ⟨⟨each, last⟩, fun s earlier => ⟨agree s earlier, fits s earlier⟩,
      fun s earlier => (fits s earlier).symm, .refl r⟩

end BuildRequest

namespace Assembly

open BuildRequest

/-- Requests made one after the other, each with its answer. -/
def replies (a : Assembly) :
    List BuildRequest → List (BuildRequest × Except ConfigError BuiltVariant)
  | [] => []
  | r :: requests => (r, (a.build r).2) :: (a.build r).1.replies requests

def buildAll (a : Assembly) (requests : List BuildRequest) : Assembly :=
  a.performAll (requests.map .build)

def entryStep (entry : Variant × BuildParameters) : Step :=
  let r : BuildRequest := ⟨entry.1, entry.2.pic, entry.2.extraArgs⟩
  buildStep ⟨r.command entry.1, entry.1⟩

/-- An assembly that has met the requests `past` and nothing else. -/
structure Serves (a : Assembly) (past : List BuildRequest) : Prop where
  cached_iff : ∀ v p, a.built.lookup v = some p ↔ ∃ r ∈ past, r.Makes v p
  -- An entry tells the command that made it, so that the order of the steps is that of the table.
  steps : a.steps = a.built.map entryStep
  distinct : (a.built.map Prod.fst).Nodup

theorem Serves.start (base : String) : (start base).Serves [] where
  cached_iff v p := by simp [Assembly.start]
  steps := rfl
  distinct := .nil

variable {a : Assembly} {past requests : List BuildRequest} {r : BuildRequest} {b : Build}

theorem entryStep_of_build (accepted : r.build = .ok b) :
    entryStep (b.variant, r.parameters) = buildStep b := by
  obtain ⟨-, -, runs⟩ := build_eq_ok_iff.1 accepted
  have same : b = ⟨r.command b.variant, b.variant⟩ := by rw [← runs]
  rw [same]
  rfl

theorem makes_iff (accepted : r.build = .ok b) {v : Variant} {p : BuildParameters} :
    r.Makes v p ↔ v = b.variant ∧ p = r.parameters := by
  constructor
  · intro makes
    exact makes.unique ⟨b, accepted, rfl, rfl⟩
  · rintro ⟨rfl, rfl⟩
    exact ⟨b, accepted, rfl, rfl⟩

theorem build_ok_iff : (∃ built, (a.build r).2 = .ok built) ↔
    ∃ v p, r.Makes v p ∧ ∀ q, a.built.lookup v = some q → q = p := by
  cases accepted : r.build with
  | error error =>
    rw [a.build_of_error accepted]
    refine iff_of_false nofun ?_
    rintro ⟨v, p, ⟨b, made, -⟩, -⟩
    cases accepted.symm.trans made
  | ok b =>
    have itself : r.Makes b.variant r.parameters := ⟨b, accepted, rfl, rfl⟩
    rcases a.build_accepted_cases accepted with
      ⟨found, answer⟩ | ⟨parameters, differ, found, answer⟩ | ⟨found, answer⟩
    · refine iff_of_true ⟨_, by rw [answer]⟩ ⟨_, _, itself, fun q earlier => ?_⟩
      exact Option.some.inj (earlier.symm.trans found)
    · rw [answer]
      refine iff_of_false nofun ?_
      rintro ⟨v, p, makes, fits⟩
      obtain ⟨rfl, rfl⟩ := (makes_iff accepted).1 makes
      exact differ (fits parameters found)
    · refine iff_of_true ⟨_, by rw [answer]⟩ ⟨_, _, itself, fun q earlier => ?_⟩
      cases earlier.symm.trans found

theorem Serves.build_ok_iff (serves : a.Serves past) (compatible : Compatible past) :
    (∃ built, (a.build r).2 = .ok built) ↔ Compatible (past ++ [r]) := by
  rw [Assembly.build_ok_iff, compatible_concat_iff, and_iff_right compatible]
  simp only [serves.cached_iff]
  constructor
  · rintro ⟨v, p, makes, fits⟩
    exact ⟨⟨v, p, makes⟩, fun s earlier =>
      makes.agrees_iff.2 fun q makes' => fits q ⟨s, earlier, makes'⟩⟩
  · rintro ⟨⟨v, p, makes⟩, agree⟩
    exact ⟨v, p, makes, fun q ⟨s, earlier, makes'⟩ =>
      makes.agrees_iff.1 (agree s earlier) q makes'⟩

section Step

variable (serves : a.Serves past) (accepted : r.build = .ok b)

include serves accepted

theorem Serves.known_iff (v : Variant) (p : BuildParameters) :
    (∃ s ∈ past ++ [r], s.Makes v p) ↔
      a.built.lookup v = some p ∨ (v = b.variant ∧ p = r.parameters) := by
  rw [serves.cached_iff, ← makes_iff accepted]
  simp [or_and_right, exists_or]

theorem Serves.again (found : a.built.lookup b.variant = some r.parameters) :
    a.Serves (past ++ [r]) where
  cached_iff v p := by
    rw [serves.known_iff accepted]
    refine (or_iff_left_of_imp ?_).symm
    rintro ⟨rfl, rfl⟩
    exact found
  steps := serves.steps
  distinct := serves.distinct

theorem Serves.grown (fresh : a.built.lookup b.variant = none) :
    (a.addBuild b r.parameters).Serves (past ++ [r]) where
  cached_iff v p := by
    rw [serves.known_iff accepted, a.addBuild_lookup fresh]
    by_cases same : v = b.variant
    · simp [same, fresh, eq_comm]
    · simp [same]
  steps := by
    rw [addBuild, serves.steps, List.map_append, List.map_singleton, entryStep_of_build accepted]
  distinct := by
    have new : b.variant ∉ a.built.map Prod.fst := by
      intro listed
      obtain ⟨entry, present, same⟩ := List.mem_map.1 listed
      have other := List.lookup_eq_none_iff.1 fresh entry present
      simp [same] at other
    rw [addBuild, List.map_append, List.map_singleton, ← List.concat_eq_append, List.nodup_concat]
    exact ⟨new, serves.distinct⟩

end Step

theorem Serves.step (serves : a.Serves past) (met : ∃ built, (a.build r).2 = .ok built) :
    (a.build r).2 = r.build.map Build.product ∧ (a.build r).1.Serves (past ++ [r]) := by
  obtain ⟨v, answered⟩ := met
  cases accepted : r.build with
  | error error =>
    rw [a.build_of_error accepted] at answered
    cases answered
  | ok b =>
    rcases a.build_accepted_cases accepted with
      ⟨found, answer⟩ | ⟨parameters, differ, found, answer⟩ | ⟨fresh, answer⟩
    · rw [answer]
      exact ⟨rfl, serves.again accepted found⟩
    · rw [answer] at answered
      cases answered
    · rw [answer]
      exact ⟨rfl, serves.grown accepted fresh⟩

theorem Serves.next (serves : a.Serves past) (compatible : Compatible (past ++ [r])) :
    (a.build r).2 = r.build.map Build.product ∧ (a.build r).1.Serves (past ++ [r]) :=
  serves.step ((serves.build_ok_iff compatible.of_append).2 compatible)

theorem Serves.met_iff (serves : a.Serves past) (compatible : Compatible past) :
    (∀ reply ∈ a.replies requests, ∃ built, reply.2 = .ok built) ↔ Compatible (past ++ requests) := by
  -- A request that is met joins the past of those that follow it.
  induction requests generalizing a past with
  | nil => simp [replies, compatible]
  | cons r requests ih =>
    rw [replies, List.forall_mem_cons, List.append_cons, serves.build_ok_iff compatible]
    constructor
    · rintro ⟨first, others⟩
      exact (ih (serves.next first).2 first).1 others
    · intro all
      have first := all.of_append
      exact ⟨first, (ih (serves.next first).2 first).2 all⟩

theorem Serves.finish (serves : a.Serves past) (all : Compatible (past ++ requests)) :
    a.replies requests = requests.map (fun r => (r, r.build.map Build.product)) ∧
      (a.buildAll requests).Serves (past ++ requests) := by
  induction requests generalizing a past with
  | nil =>
    rw [List.append_nil]
    exact ⟨rfl, serves⟩
  | cons r requests ih =>
    rw [List.append_cons] at all ⊢
    obtain ⟨answer, after⟩ := serves.next all.of_append
    obtain ⟨answers, finished⟩ := ih after all
    rw [replies, answers, answer]
    exact ⟨rfl, finished⟩

theorem mem_iff_lookup {table : List (Variant × BuildParameters)}
    (distinct : (table.map Prod.fst).Nodup) {v : Variant} {p : BuildParameters} :
    (v, p) ∈ table ↔ table.lookup v = some p := by
  induction table with
  | nil => simp
  | cons entry table ih =>
    obtain ⟨new, distinct⟩ := List.nodup_cons.1 distinct
    rw [List.mem_cons, ih distinct, List.lookup_cons]
    by_cases same : v = entry.1
    · subst same
      have missing : table.lookup entry.1 = none := by
        rw [List.lookup_eq_none_iff]
        intro other listed
        rw [bne_iff_ne]
        intro collide
        exact new (List.mem_map.2 ⟨other, listed, collide.symm⟩)
      rw [missing, beq_self_eq_true]
      simp [Prod.ext_iff, eq_comm]
    · have distinct' : (v == entry.1) = false := beq_false_of_ne same
      rw [distinct']
      simp [Prod.ext_iff, same]

theorem Serves.built_perm {a' : Assembly} {past' : List BuildRequest} (serves : a.Serves past)
    (serves' : a'.Serves past') (same : past'.Perm past) :
    (∀ v, a'.built.lookup v = a.built.lookup v) ∧ a'.built.Perm a.built := by
  have cached : ∀ v p, a'.built.lookup v = some p ↔ a.built.lookup v = some p := by
    intro v p
    simp only [serves.cached_iff, serves'.cached_iff, same.mem_iff]
  refine ⟨fun v => Option.ext (cached v), ?_⟩
  rw [List.perm_ext_iff_of_nodup serves'.distinct.of_map serves.distinct.of_map]
  rintro ⟨v, p⟩
  rw [mem_iff_lookup serves'.distinct, mem_iff_lookup serves.distinct, cached]

def AllMet (base : String) (requests : List BuildRequest) : Prop :=
  ∀ reply ∈ (start base).replies requests, ∃ built, reply.2 = .ok built

theorem allMet_iff (base : String) : AllMet base requests ↔ Compatible requests :=
  (Serves.start base).met_iff ⟨nofun, nofun⟩

/-- What does not depend on the order in which builds are requested. -/
structure OrderFree (base : String) (requests : List BuildRequest) : Prop where
  met_iff : AllMet base requests ↔ ∀ others, others.Perm requests → AllMet base others
  steps : AllMet base requests → ∀ others, others.Perm requests →
    ((start base).buildAll others).steps.Perm ((start base).buildAll requests).steps
  cache : AllMet base requests → ∀ others, others.Perm requests → ∀ v,
    ((start base).buildAll others).built.lookup v = ((start base).buildAll requests).built.lookup v
  -- An answer is told from the request alone.
  replies : AllMet base requests → ∀ others, others.Perm requests →
    (start base).replies others = others.map fun r => (r, r.build.map Build.product)

theorem builds_orderFree (base : String) (requests : List BuildRequest) :
    OrderFree base requests := by
  have compatible : AllMet base requests → ∀ others, others.Perm requests → Compatible others :=
    fun met others same => (compatible_perm same).2 ((allMet_iff base).1 met)
  have serves : ∀ others, Compatible others → ((start base).buildAll others).Serves others :=
    fun others all => ((Serves.start base).finish all).2
  have tables : AllMet base requests → ∀ others : List BuildRequest, others.Perm requests →
      (∀ v, ((start base).buildAll others).built.lookup v =
        ((start base).buildAll requests).built.lookup v) ∧
      ((start base).buildAll others).built.Perm ((start base).buildAll requests).built :=
    fun met others same => (serves requests (compatible met _ (.refl _))).built_perm
      (serves others (compatible met others same)) same
  exact
    { met_iff :=
        ⟨fun met others same => (allMet_iff base).2 (compatible met others same),
          fun all => all requests (.refl _)⟩
      steps := fun met others same => by
        rw [(serves others (compatible met others same)).steps,
          (serves requests (compatible met _ (.refl _))).steps]
        exact (tables met others same).2.map entryStep
      cache := fun met others same => (tables met others same).1
      replies := fun met others same =>
        ((Serves.start base).finish (compatible met others same)).1 }

/-- Asking for the PIC switch and asking for the PIC tag as well come to the same build. -/
theorem pic_twice_orderFree :
    let plain : Variant := .plain .linux .x64 .o1 false
    let switched : BuildRequest := ⟨plain, true, ["-j8"]⟩
    let tagged : BuildRequest := ⟨plain.tagged .pic, true, ["-j8"]⟩
    let bare : BuildRequest := ⟨plain, false, []⟩
    AllMet "unittest" [switched, bare, tagged] ∧ AllMet "unittest" [tagged, switched, bare] ∧
      (((start "unittest").buildAll [tagged, switched, bare]).steps.Perm
        ((start "unittest").buildAll [switched, bare, tagged]).steps) ∧
      ((start "unittest").buildAll [tagged, switched, bare]).steps.length = 2 := by
  intro plain switched tagged bare
  let built (v : Variant) : BuiltVariant := ⟨v, v.describe⟩
  have answers : (start "unittest").replies [switched, bare, tagged] =
      [(switched, .ok (built (plain.tagged .pic))), (bare, .ok (built plain)),
        (tagged, .ok (built (plain.tagged .pic)))] := rfl
  have met : AllMet "unittest" [switched, bare, tagged] := by
    rw [AllMet, answers]
    simp
  have same : [tagged, switched, bare].Perm [switched, bare, tagged] := by decide
  have free := builds_orderFree "unittest" [switched, bare, tagged]
  exact ⟨met, free.met_iff.1 met _ same, free.steps met _ same, by decide⟩

end Assembly

end RaceFarm
