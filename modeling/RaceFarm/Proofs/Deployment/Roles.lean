import RaceFarm.Proofs.Deployment.Pipelines

namespace RaceFarm

/-- What a run makes of a step, whatever the step does. -/
structure StepRole where
  fatal : Bool
  completion : Option Completion
  destination : Option Destination
deriving DecidableEq

namespace StepRole

def plain : StepRole :=
  { fatal := true, completion := none, destination := none }

def capture : StepRole :=
  { plain with completion := some .captureRevision }

def upload (destination : Destination) : StepRole :=
  { plain with destination := some destination }

end StepRole

namespace Step

def role (step : Step) : StepRole :=
  { fatal := step.fatal, completion := step.completion, destination := step.destination? }

/-- The benchmark whose log a step prints. -/
def benchmark? (step : Step) : Option BenchmarkSpec :=
  match step.completion with
  | some (.processLog spec) => some spec
  | _ => none

end Step

namespace Settings

open StepRole in
/-- The roles of the stock steps, which no settings change. -/
def stockRoles : PipelineId → List StepRole
  | .linuxBuild =>
    [plain, plain, capture] ++ List.replicate 10 plain ++
      TreeBuild.binaries.map
        (fun binary => upload (.withRevision ("public_html/binaries/" ++ binary.2))) ++
      List.replicate 10 plain ++ [upload (.fixed Step.buildTree)]
  | .linuxSmall => List.replicate 5 plain ++ [capture] ++ List.replicate 8 plain
  | .windows =>
    [plain, plain, capture] ++ List.replicate 17 plain ++
      [upload (.withRevision "public_html/binaries/tsan-r%s-x86-windows-sfx.exe")]

theorem stockSteps_role (s : Settings) (id : PipelineId) :
    (s.stockSteps id).map Step.role = stockRoles id := by
  cases id <;> rfl

theorem stockSteps_length_roles (s : Settings) (id : PipelineId) :
    (s.stockSteps id).length = (stockRoles id).length := by
  rw [← s.stockSteps_role id, List.length_map]

theorem stockSteps_all {P : StepRole → Prop} {id : PipelineId}
    (holds : ∀ role ∈ stockRoles id, P role) (s : Settings) :
    ∀ step ∈ s.stockSteps id, P step.role := by
  intro step listed
  apply holds
  rw [← s.stockSteps_role id]
  exact List.mem_map_of_mem listed

end Settings

end RaceFarm
