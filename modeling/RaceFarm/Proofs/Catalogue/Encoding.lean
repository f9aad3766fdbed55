import Mathlib.Data.List.Basic
import RaceFarm.Catalogue
import RaceFarm.Proofs.Json.Compact

namespace RaceFarm

open Function (Injective)

namespace Json

variable {α : Type} {write : α → Json}

theorem list_map_inj (inj : Injective write) {items items' : List α}
    (same : Json.list (items.map write) = Json.list (items'.map write)) : items = items' :=
  List.map_injective_iff.2 inj (Json.list.inj same)

theorem texts_inj : Injective texts := by
  intro items items' same
  exact list_map_inj (fun _ _ => Json.str.inj) same

theorem table_inj (inj : Injective write) : Injective (table write) := by
  rintro ⟨entries, _⟩ ⟨entries', _⟩ same
  have members : Injective fun (entry : String × α) => (entry.1, write entry.2) :=
    Function.injective_id.prodMap inj
  obtain rfl : entries = entries' := List.map_injective_iff.2 members (Json.object.inj same)
  rfl

/-- A value that is never written as null can be told from an absent one. -/
theorem optional_inj (inj : Injective write) (present : ∀ a, write a ≠ .null) :
    Injective (optional write) := by
  intro a b same
  cases a with
  | none =>
    cases b with
    | none => rfl
    | some b => exact absurd same.symm (present b)
  | some a =>
    cases b with
    | none => exact absurd same (present a)
    | some b => rw [inj same]

theorem whole_nat_inj : Injective fun (n : Nat) => Json.whole n := by
  intro n m same
  exact Int.ofNat.inj (Json.whole.inj same)

end Json

theorem Expectation.toJson_inj : Injective Expectation.toJson := by
  rintro ⟨improve, regress⟩ ⟨improve', regress'⟩ same
  simpa [toJson] using same

theorem BenchmarkSpec.members_inj : Injective BenchmarkSpec.members := by
  rintro ⟨platform, benchmark, expectations⟩ ⟨platform', benchmark', expectations'⟩ same
  simp only [members, List.cons.injEq, Prod.mk.injEq, Json.str.injEq, true_and, and_true] at same
  obtain ⟨rfl, rfl, expectations⟩ := same
  rw [Json.table_inj Expectation.toJson_inj expectations]

theorem StepKind.name_inj : Injective StepKind.name := by
  intro kind kind' same
  cases kind <;> cases kind' <;> simp_all [name]

theorem PipelineId.name_inj : Injective PipelineId.name := by
  intro id id' same
  cases id <;> cases id' <;> simp_all [name]

theorem Command.toJson_inj : Injective Command.toJson := by
  intro command command' same
  cases command with
  | argv args =>
    cases command' with
    | argv args' =>
      simp only [toJson, Json.object.injEq, List.cons.injEq, Prod.mk.injEq, true_and, and_true]
        at same
      rw [Json.texts_inj same]
    | shell line => simp [toJson] at same
  | shell line =>
    cases command' with
    | argv args => simp [toJson] at same
    | shell line' => simpa [toJson] using same

theorem Destination.toJson_inj : Injective Destination.toJson := by
  intro d d' same
  cases d <;> cases d' <;> simp_all [toJson]

theorem Completion.toJson_inj : Injective Completion.toJson := by
  intro completion completion' same
  cases completion with
  | captureRevision =>
    cases completion' with
    | captureRevision => rfl
    | processLog spec => simp [toJson] at same
  | processLog spec =>
    cases completion' with
    | captureRevision => simp [toJson] at same
    | processLog spec' =>
      simp only [toJson, Json.object.injEq, List.cons.injEq, true_and] at same
      rw [BenchmarkSpec.members_inj same]

theorem Action.toJson_inj : Injective Action.toJson := by
  intro action action' same
  cases action with
  | checkout svnurl mode => cases action' <;> simp_all [toJson]
  | command kind what env =>
    cases action' with
    | command kind' what' env' =>
      simp only [toJson, Json.object.injEq, List.cons.injEq, Prod.mk.injEq, Json.str.injEq,
        true_and, and_true] at same
      obtain ⟨kind, what, env⟩ := same
      rw [StepKind.name_inj kind, Command.toJson_inj what,
        Json.table_inj (fun _ _ => Json.str.inj) env]
    | _ => simp [toJson] at same
  | upload source destination mode =>
    cases action' with
    | upload source' destination' mode' =>
      simp only [toJson, Json.object.injEq, List.cons.injEq, Prod.mk.injEq, Json.str.injEq,
        true_and, and_true] at same
      obtain ⟨rfl, destination, mode⟩ := same
      rw [Destination.toJson_inj destination, Json.whole_nat_inj mode]
    | _ => simp [toJson] at same
  | download source destination mode => cases action' <;> simp_all [toJson]

theorem Step.toJson_inj : Injective Step.toJson := by
  rintro ⟨action, description, descriptionDone, fatal, timeout, completion⟩
    ⟨action', description', descriptionDone', fatal', timeout', completion'⟩ same
  have absent : ∀ completion : Completion, completion.toJson ≠ .null := by
    rintro (_ | spec) <;> nofun
  simp only [toJson, Json.object.injEq, List.cons.injEq, Prod.mk.injEq, Json.str.injEq,
    Json.bool.injEq, true_and, and_true] at same
  obtain ⟨action, rfl, rfl, rfl, timeout, completion⟩ := same
  rw [Action.toJson_inj action, Json.optional_inj Json.whole_nat_inj nofun timeout,
    Json.optional_inj Completion.toJson_inj absent completion]

theorem Pipeline.toJson_inj : Injective Pipeline.toJson := by
  rintro ⟨steps⟩ ⟨steps'⟩ same
  simp only [toJson, Json.object.injEq, List.cons.injEq, Prod.mk.injEq, true_and, and_true] at same
  rw [Json.list_map_inj Step.toJson_inj same]

theorem Builder.toJson_inj : Injective Builder.toJson := by
  rintro ⟨name, agent, buildDir, pipeline⟩ ⟨name', agent', buildDir', pipeline'⟩ same
  simp only [toJson, PipelineId.toJson, Json.object.injEq, List.cons.injEq, Prod.mk.injEq,
    Json.str.injEq, true_and, and_true] at same
  obtain ⟨rfl, rfl, rfl, pipeline⟩ := same
  rw [PipelineId.name_inj pipeline]

namespace Pipelines

theorem lookup_toList (p : Pipelines) (id : PipelineId) : p.toList.lookup id = p.get? id := by
  obtain ⟨linuxBuild, linuxSmall, windows⟩ := p
  cases linuxBuild <;> cases linuxSmall <;> cases windows <;> cases id <;> rfl

theorem toList_inj : Injective toList := by
  intro p q same
  have found : ∀ id, p.get? id = q.get? id := by
    intro id
    rw [← p.lookup_toList, same, q.lookup_toList]
  obtain ⟨linuxBuild, linuxSmall, windows⟩ := p
  obtain ⟨linuxBuild', linuxSmall', windows'⟩ := q
  rw [show linuxBuild = linuxBuild' from found .linuxBuild,
    show linuxSmall = linuxSmall' from found .linuxSmall,
    show windows = windows' from found .windows]

end Pipelines

/-- The bounds of what a benchmark is expected to measure are finite. -/
def BenchmarkSpec.FiniteBounds (s : BenchmarkSpec) : Prop :=
  ∀ entry ∈ s.expectations.entries,
    entry.2.improve.isFinite = true ∧ entry.2.regress.isFinite = true

def Pipeline.FiniteBounds (p : Pipeline) : Prop :=
  ∀ step ∈ p.steps, ∀ spec, step.completion = some (.processLog spec) → spec.FiniteBounds

namespace Json

theorem finite_list {items : List Json} (finite : ∀ item ∈ items, item.Finite) :
    (Json.list items).Finite :=
  finiteItems_iff.2 finite

theorem finite_texts (items : List String) : (texts items).Finite := by
  apply finite_list
  intro item listed
  obtain ⟨text, -, rfl⟩ := List.mem_map.1 listed
  trivial

theorem finite_table {α : Type} {write : α → Json} {table : KeyTable α}
    (finite : ∀ entry ∈ table.entries, (write entry.2).Finite) :
    (Json.table write table).Finite := by
  apply finiteMembers_iff.2
  intro member listed
  obtain ⟨entry, stored, rfl⟩ := List.mem_map.1 listed
  exact finite entry stored

end Json

theorem Action.toJson_finite (action : Action) : action.toJson.Finite := by
  cases action with
  | checkout svnurl mode => exact ⟨trivial, trivial, trivial, trivial⟩
  | command kind what env =>
    have written : what.toJson.Finite := by
      cases what with
      | argv args => exact ⟨Json.finite_texts args, trivial⟩
      | shell line => exact ⟨trivial, trivial⟩
    exact ⟨trivial, trivial, written, Json.finite_table fun _ _ => trivial, trivial⟩
  | upload source destination mode =>
    have written : destination.toJson.Finite := by cases destination <;> exact ⟨trivial, trivial⟩
    exact ⟨trivial, trivial, written, trivial, trivial⟩
  | download source destination mode => exact ⟨trivial, trivial, trivial, trivial, trivial⟩

theorem Completion.toJson_finite {completion : Completion}
    (finite : ∀ spec, completion = .processLog spec → spec.FiniteBounds) :
    completion.toJson.Finite := by
  cases completion with
  | captureRevision => exact ⟨trivial, trivial⟩
  | processLog spec =>
    have expectations : (Expectations.toJson spec.expectations).Finite := by
      apply Json.finite_table
      intro entry stored
      obtain ⟨improve, regress⟩ := finite spec rfl entry stored
      exact ⟨improve, regress, trivial⟩
    exact ⟨trivial, trivial, trivial, expectations, trivial⟩

theorem Step.toJson_finite {step : Step}
    (finite : ∀ spec, step.completion = some (.processLog spec) → spec.FiniteBounds) :
    step.toJson.Finite := by
  have timeout : (Json.optional (fun (n : Nat) => .whole n) step.timeoutSecs).Finite := by
    cases step.timeoutSecs <;> trivial
  have completion : (Json.optional Completion.toJson step.completion).Finite := by
    cases given : step.completion with
    | none => trivial
    | some completion =>
      apply Completion.toJson_finite
      rintro spec rfl
      exact finite spec given
  exact ⟨step.action.toJson_finite, trivial, trivial, trivial, timeout, completion, trivial⟩

theorem Pipeline.toJson_finite {p : Pipeline} (finite : p.FiniteBounds) : p.toJson.Finite := by
  have steps : (Json.list (p.steps.map Step.toJson)).Finite := by
    apply Json.finite_list
    intro item listed
    obtain ⟨step, built, rfl⟩ := List.mem_map.1 listed
    exact Step.toJson_finite (finite step built)
  exact ⟨steps, trivial⟩

theorem Digest.message_inj {v w : Json} (finite : v.Finite) (finite' : w.Finite)
    (same : message v = message w) : v = w := by
  have bytes : v.compact.toUTF8 = w.compact.toUTF8 := ByteArray.ext (Array.toList_inj.1 same)
  exact Json.compact_inj finite finite' (String.toByteArray_inj.1 bytes)

namespace Catalogue

theorem toJson_inj : Injective toJson := by
  rintro ⟨builders, pipelines⟩ ⟨builders', pipelines'⟩ same
  have entries : Injective fun (entry : PipelineId × Pipeline) =>
      (entry.1.name, entry.2.toJson) :=
    PipelineId.name_inj.prodMap Pipeline.toJson_inj
  simp only [toJson, members, Json.object.injEq, List.cons.injEq, Prod.mk.injEq, true_and,
    and_true] at same
  obtain ⟨builders, pipelines⟩ := same
  rw [Json.list_map_inj Builder.toJson_inj builders,
    Pipelines.toList_inj (List.map_injective_iff.2 entries pipelines)]

def FiniteBounds (c : Catalogue) : Prop :=
  ∀ entry ∈ c.pipelines.toList, entry.2.FiniteBounds

theorem toJson_finite {c : Catalogue} (finite : c.FiniteBounds) : c.toJson.Finite := by
  have builders : (Json.list (c.builders.map Builder.toJson)).Finite := by
    apply Json.finite_list
    intro item listed
    obtain ⟨b, -, rfl⟩ := List.mem_map.1 listed
    exact ⟨trivial, trivial, trivial, trivial, trivial⟩
  have pipelines : Json.FiniteMembers
      (c.pipelines.toList.map fun entry => (entry.1.name, entry.2.toJson)) := by
    apply Json.finiteMembers_iff.2
    intro member listed
    obtain ⟨entry, present, rfl⟩ := List.mem_map.1 listed
    exact Pipeline.toJson_finite (finite entry present)
  exact ⟨builders, pipelines, trivial⟩

/-- Catalogues with finite bounds are told apart by what their digests are taken of. -/
theorem message_eq_iff {c d : Catalogue} (finite : c.FiniteBounds) (finite' : d.FiniteBounds) :
    Digest.message c.toJson = Digest.message d.toJson ↔ c = d := by
  constructor
  · intro same
    exact toJson_inj (Digest.message_inj (toJson_finite finite) (toJson_finite finite') same)
  · rintro rfl
    rfl

/-- Also bounds that differ only in the sign of a zero. -/
theorem message_of_zero_bounds :
    let c := fun (negative : Bool) => Catalogue.mk [] (.ofFn fun _ => some ⟨[.benchmark
      ⟨"linux", "startup", .ofList [("warm/time", ⟨.zero negative, .zero false⟩)]⟩ (.shell "run")]⟩)
    (c false).FiniteBounds ∧ (c true).FiniteBounds ∧
      Digest.message (c false).toJson ≠ Digest.message (c true).toJson := by
  intro c
  have finite : ∀ negative, (c negative).FiniteBounds := by
    intro negative entry present step built spec given bounds stored
    obtain ⟨id, -, found⟩ := List.mem_filterMap.1 present
    rw [Pipelines.get?_ofFn] at found
    cases found
    obtain rfl := List.mem_singleton.1 built
    cases given
    obtain rfl := List.mem_singleton.1 stored
    exact ⟨rfl, rfl⟩
  have differ : c false ≠ c true := by decide
  exact ⟨finite false, finite true,
    fun same => differ ((message_eq_iff (finite false) (finite true)).1 same)⟩

end Catalogue

end RaceFarm
