import Mathlib.Data.List.Nodup
import RaceFarm.Proofs.Deployment.Roles
import RaceFarm.Proofs.Run.FailFast

namespace RaceFarm

theorem Text.fillFirst_of_notMem {head : Char} {slot before : List Char} (clean : head ∉ before)
    (value after : List Char) :
    fillFirst (head :: slot) value (before ++ head :: slot ++ after) =
      before ++ value ++ after := by
  induction before with
  | nil =>
    have found : Text.after (head :: slot) (head :: (slot ++ after)) = some after :=
      after_eq_some_iff.2 rfl
    simp only [List.nil_append, List.cons_append, fillFirst, found]
  | cons c before ih =>
    obtain ⟨other, clean⟩ := List.ne_and_not_mem_of_not_mem_cons clean
    have missed : Text.after (head :: slot) (c :: (before ++ head :: slot ++ after)) = none := by
      simp [Text.after, other]
    simp only [List.cons_append, fillFirst]
    rw [missed, ih clean]

namespace Destination

/-- A fixed path is taken as it is. A template has one slot, and nothing but the slot changes. -/
def FillsOneSlot : Destination → Prop
  | fixed path => ∀ slot, (fixed path).resolve slot = path
  | withRevision template =>
    ∃ before after, template = before ++ "%s" ++ after ∧
      (∀ before' after', template = before' ++ "%s" ++ after' → before = before' ∧ after = after') ∧
      ∀ slot, (withRevision template).resolve slot = before ++ slot.revision.getD "-1" ++ after

theorem resolve_of_notMem {before : String} (clean : '%' ∉ before.toList) (after : String)
    (slot : RevisionSlot) :
    (withRevision (before ++ "%s" ++ after)).resolve slot = before ++ slot.orUnknown ++ after := by
  have filled : Text.fillFirst ['%', 's'] slot.orUnknown.toList
      (before.toList ++ ['%', 's'] ++ after.toList) = _ := Text.fillFirst_of_notMem clean _ _
  apply String.toList_inj.1
  simpa [resolve] using filled

theorem fillsOneSlot_of_notMem {before after : String} (clean : '%' ∉ before.toList)
    (clean' : '%' ∉ after.toList) : (withRevision (before ++ "%s" ++ after)).FillsOneSlot := by
  refine ⟨before, after, rfl, ?_, resolve_of_notMem clean after⟩
  intro before' after' same
  have spelled : before.toList ++ '%' :: 's' :: after.toList =
      before'.toList ++ '%' :: 's' :: after'.toList := by
    simpa using congrArg String.toList same
  have tail : '%' ∉ 's' :: after.toList := by simpa using clean'
  obtain ⟨front, -, back⟩ := (List.append_cons_inj_of_notMem clean tail).1 spelled
  exact ⟨String.toList_inj.1 front, String.toList_inj.1 (List.cons.inj back).2⟩

/-- The name of a checker binary, up to its revision. -/
def binary (after : String) : Destination :=
  withRevision ("public_html/binaries/tsan-r" ++ "%s" ++ after)

theorem binary_resolve (after : String) (slot : RevisionSlot) :
    (binary after).resolve slot = "public_html/binaries/tsan-r" ++ slot.orUnknown ++ after :=
  resolve_of_notMem (by decide) after slot

theorem binary_resolve_inj {after after' : String} {slot : RevisionSlot}
    (same : (binary after).resolve slot = (binary after').resolve slot) : after = after' := by
  have spelled := congrArg String.toList same
  simp only [binary_resolve, String.toList_append] at spelled
  exact String.toList_inj.1 (List.append_cancel_left spelled)

theorem binary_resolve_ne_buildTree (after : String) (slot : RevisionSlot) :
    (binary after).resolve slot ≠ Step.buildTree := by
  intro same
  have spelled := congrArg (·.toList.head?) same
  simp [binary_resolve, Step.buildTree] at spelled

end Destination

namespace Pipeline

def destinations (p : Pipeline) : List Destination :=
  p.steps.filterMap Step.destination?

end Pipeline

namespace Settings

open Destination

/-- How the names of the published binaries go on after the revision. -/
def binaryNames : PipelineId → List String
  | .linuxBuild => [
    "-amd64-linux-debug-self-contained.sh", "-amd64-linux-self-contained.sh",
    "-x86-linux-self-contained.sh", "-amd64only-linux-self-contained.sh"]
  | .linuxSmall => []
  | .windows => ["-x86-windows-sfx.exe"]

def trees : PipelineId → List Destination
  | .linuxBuild => [fixed Step.buildTree]
  | _ => []

theorem eq_of_mem_trees {id : PipelineId} {d : Destination} (listed : d ∈ trees id) :
    d = fixed Step.buildTree := by
  cases id with
  | linuxBuild => exact List.mem_singleton.1 listed
  | linuxSmall => cases listed
  | windows => cases listed

theorem stockRoles_destinations (id : PipelineId) :
    (stockRoles id).filterMap StepRole.destination = (binaryNames id).map binary ++ trees id := by
  cases id <;> rfl

theorem generated_destinations (s : Settings) (id : PipelineId) :
    (s.generated id).destinations = (binaryNames id).map binary ++ trees id := by
  have stock : (s.stockSteps id).filterMap Step.destination? =
      ((s.stockSteps id).map Step.role).filterMap StepRole.destination := by
    rw [List.filterMap_map]
    rfl
  have benchmarks : ((s.benchmarksFor id).map benchmarkStep).filterMap Step.destination? = [] := by
    simp [benchmarkStep, Step.benchmark, Step.withCompletion, Step.run, Step.ofAction,
      Step.destination?]
  rw [Pipeline.destinations, generated, List.filterMap_append, stock, stockSteps_role,
    stockRoles_destinations, benchmarks, List.append_nil]

theorem resolved_nodup (s : Settings) (id : PipelineId) (slot : RevisionSlot) :
    ((s.generated id).destinations.map (·.resolve slot)).Nodup := by
  have names : (binaryNames id).Nodup := by cases id <;> decide
  rw [generated_destinations, List.map_append, List.nodup_append, List.map_map]
  refine ⟨?_, ?_, ?_⟩
  · apply List.Nodup.map _ names
    intro after after' same
    exact binary_resolve_inj same
  · cases id <;> simp [trees]
  · intro path published path' tree
    obtain ⟨after, -, rfl⟩ := List.mem_map.1 published
    obtain ⟨d, listed, rfl⟩ := List.mem_map.1 tree
    rw [eq_of_mem_trees listed]
    exact binary_resolve_ne_buildTree after slot

theorem generated_fillsOneSlot (s : Settings) (id : PipelineId) :
    ∀ d ∈ (s.generated id).destinations, d.FillsOneSlot := by
  have names : ∀ after ∈ binaryNames id, '%' ∉ after.toList := by cases id <;> decide
  intro d listed
  rw [generated_destinations] at listed
  rcases List.mem_append.1 listed with published | tree
  · obtain ⟨after, named, rfl⟩ := List.mem_map.1 published
    exact fillsOneSlot_of_notMem (by decide) (names after named)
  · rw [eq_of_mem_trees tree]
    exact fun _ => rfl

def captureIndex : PipelineId → Nat
  | .linuxSmall => 5
  | _ => 2

theorem captureIndex_lt (id : PipelineId) : captureIndex id < (stockRoles id).length := by
  cases id <;> decide

theorem stockRoles_capture {id : PipelineId} {i : Nat} {role : StepRole}
    (here : (stockRoles id)[i]? = some role) :
    (role.completion = some .captureRevision ↔ i = captureIndex id) ∧
      (role.destination ≠ none → captureIndex id < i) := by
  have checked : ∀ i : Fin (stockRoles id).length,
      ((stockRoles id)[i].completion = some .captureRevision ↔ i.val = captureIndex id) ∧
        ((stockRoles id)[i].destination ≠ none → captureIndex id < i.val) := by
    cases id <;> decide
  obtain ⟨inside, rfl⟩ := List.getElem?_eq_some_iff.1 here
  exact checked ⟨i, inside⟩

theorem generated_cases {s : Settings} {id : PipelineId} {i : Nat} {step : Step}
    (here : (s.generated id).steps[i]? = some step) :
    (stockRoles id)[i]? = some step.role ∨
      (stockRoles id).length ≤ i ∧ ∃ b, step = benchmarkStep b := by
  rw [generated, List.getElem?_append] at here
  rw [← s.stockSteps_length_roles]
  split at here
  · left
    rw [← s.stockSteps_role id, List.getElem?_map, here]
    rfl
  · rename_i beyond
    obtain ⟨b, -, same⟩ := List.mem_map.1 (List.mem_of_getElem? here)
    exact .inr ⟨Nat.le_of_not_lt beyond, b, same.symm⟩

theorem generated_capturesAt (s : Settings) (id : PipelineId) :
    (s.generated id).CapturesAt (captureIndex id) where
  inside := by
    have within := captureIndex_lt id
    rw [generated, List.length_append, s.stockSteps_length_roles]
    omega
  only i step here := by
    rcases generated_cases here with stock | ⟨beyond, b, rfl⟩
    · exact (stockRoles_capture stock).1
    · have within := captureIndex_lt id
      have elsewhere : i ≠ captureIndex id := by omega
      simp [benchmarkStep, Step.benchmark, Step.withCompletion, elsewhere]

theorem generated_uploadsAfter (s : Settings) (id : PipelineId) :
    (s.generated id).UploadsAfter (captureIndex id) := by
  intro i step here uploaded
  rcases generated_cases here with stock | ⟨-, b, rfl⟩
  · exact (stockRoles_capture stock).2 uploaded
  · exact absurd rfl uploaded

theorem generated_failFast (s : Settings) (id : PipelineId) : (s.generated id).FailFast := by
  have stock : ∀ role ∈ stockRoles id, role.fatal = true := by cases id <;> decide
  intro step listed
  rcases List.mem_append.1 listed with built | declared
  · exact stockSteps_all stock s step built
  · obtain ⟨b, -, rfl⟩ := List.mem_map.1 declared
    rfl

end Settings

/-- What holds of a pipeline that publishes its binaries under the revision of its run. -/
structure Pipeline.Publishes (p : Pipeline) : Prop where
  -- One step captures the revision, uploads come later, and a run stops at its first failure.
  runs : ∃ k, p.CapturesAt k ∧ p.UploadsAfter k ∧
    ∀ outcomes, ((Run.start p).recordAll outcomes).StopsEarly p k outcomes
  -- No upload replaces another one's file, whatever the revision.
  distinct : ∀ slot, (p.destinations.map (·.resolve slot)).Nodup
  slots : ∀ d ∈ p.destinations, d.FillsOneSlot

/-- Every pipeline of every deployment publishes its binaries safely. -/
theorem Settings.deploy_publishes (s : Settings) : ∃ c, s.deploy = .ok c ∧
    ∀ id, ∃ p, c.pipelines.get? id = some p ∧ p.Publishes := by
  refine ⟨s.catalogue, s.deploy_eq, fun id => ⟨s.generated id, by simp [catalogue], ?_⟩⟩
  have captures := s.generated_capturesAt id
  have uploads := s.generated_uploadsAfter id
  have runs := Run.recordAll_stopsEarly (s.generated_failFast id) captures uploads
  exact ⟨⟨captureIndex id, captures, uploads, runs⟩, s.resolved_nodup id,
    s.generated_fillsOneSlot id⟩

end RaceFarm
