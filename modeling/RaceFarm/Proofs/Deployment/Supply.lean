import RaceFarm.Proofs.Assembly.Provenance
import RaceFarm.Proofs.Deployment.Pipelines

namespace RaceFarm

namespace Step

/-- Runs the unit tests, plainly or as a pass of the race verifier. -/
def IsUnitTest (step : Step) : Prop :=
  step.kind? = some .test ∧ Text.startsWith "testing tsan-" step.description = true

instance (step : Step) : Decidable step.IsUnitTest :=
  inferInstanceAs (Decidable (_ ∧ _))

/-- Builds the unit tests of a variant. -/
def Builds (v : Variant) (step : Step) : Prop :=
  ∃ r b, BuildRequest.build r = .ok b ∧ b.variant = v ∧ step = Assembly.buildStep b

def Runs (binary : String) (step : Step) : Prop :=
  ∃ command, step.command? = some command ∧ command.Runs binary

theorem Builds.described {v : Variant} {step : Step} (builds : step.Builds v) :
    step.kind? = some .compile ∧ step.description = "building unittests " ++ v.describe := by
  obtain ⟨r, b, -, rfl, rfl⟩ := builds
  exact ⟨rfl, rfl⟩

theorem Builds.announced {v : Variant} {step : Step} (builds : step.Builds v) :
    step.kind? = some .compile ∧ Text.startsWith "building unittests" step.description = true := by
  obtain ⟨kind, description⟩ := builds.described
  refine ⟨kind, List.isPrefixOf_iff_prefix.2 ⟨' ' :: v.describe.toList, ?_⟩⟩
  rw [description, String.toList_append]
  simp

theorem Builds.unique {v w : Variant} {step : Step} (builds : step.Builds v)
    (builds' : step.Builds w) : v = w := by
  have same := builds.described.2.symm.trans builds'.described.2
  have spelled := congrArg String.toList same
  rw [String.toList_append, String.toList_append] at spelled
  exact Variant.describe_inj (String.toList_inj.1 (List.append_cancel_left spelled))

end Step

/-- Every unit test runs a binary that an earlier step has built. -/
def Supplied (base : String) (steps : List Step) : Prop :=
  ∀ (i : Nat) (step : Step), steps[i]? = some step → step.IsUnitTest →
    ∃ (v : Variant) (j : Nat) (build : Step), j < i ∧ steps[j]? = some build ∧ build.Builds v ∧
      step.Runs (v.binaryPath base)

namespace Supplied

variable {base : String} {first second : List Step}

theorem nil : Supplied base [] := by
  intro i step here
  cases here

theorem append (supplied : Supplied base first)
    (later : ∀ step ∈ second, step.IsUnitTest →
      ∃ (v : Variant) (build : Step), build ∈ first ∧ build.Builds v ∧
        step.Runs (v.binaryPath base)) :
    Supplied base (first ++ second) := by
  intro i step here test
  rw [List.getElem?_append] at here
  split at here
  · obtain ⟨v, j, build, before, built, builds, runs⟩ := supplied i step here test
    refine ⟨v, j, build, before, ?_, builds, runs⟩
    rw [List.getElem?_append_left (by omega), built]
  · rename_i beyond
    obtain ⟨v, build, listed, builds, runs⟩ := later step (List.mem_of_getElem? here) test
    obtain ⟨j, inside, built⟩ := List.getElem_of_mem listed
    refine ⟨v, j, build, by omega, ?_, builds, runs⟩
    rw [List.getElem?_append_left inside, List.getElem?_eq_getElem inside, built]

end Supplied

namespace WindowsTests

theorem TestRun.Plain.builds {run : TestRun} (plain : run.Plain) :
    (Assembly.buildStep run.build).Builds run.variant :=
  ⟨run.request, _, plain.build_eq, rfl, rfl⟩

end WindowsTests

namespace TreeTests

def variants : List Variant := TreeBuild.builds.map Build.variant

end TreeTests

namespace TreeBuild

section Places

variable (s : Settings) (benchmarks : List Step)

variable {s benchmarks}

end Places

end TreeBuild

namespace Settings

end Settings

end RaceFarm
