import RaceFarm.Deployment.TreeBuild
import RaceFarm.Deployment.TreeTests
import RaceFarm.Deployment.WindowsTests

namespace RaceFarm

namespace Builder

/-- The first name that a list of builders uses again, if `taken` are in use already. -/
def sharedName? : List String → List Builder → Option String
  | _, [] => none
  | taken, b :: builders =>
    if taken.contains b.name then some b.name else sharedName? (b.name :: taken) builders

/-- Every builder goes by a name of its own. -/
def checkNames (builders : List Builder) : Except ConfigError Unit :=
  match sharedName? [] builders with
  | some name => .error (.duplicateBuilder name)
  | none => .ok ()

end Builder

namespace Settings

def benchmarkStep (b : BenchmarkSettings) : Step :=
  .benchmark b.spec (.shell b.command)

/-- Adds everything in a pipeline but its benchmarks. -/
def assembleStock (s : Settings) (a : Assembly) : PipelineId → Except ConfigError Assembly
  | .linuxBuild => a.follow (TreeBuild.orders s)
  | .linuxSmall => do a.follow (TreeTests.orders (← TreeBuild.shippedVariants))
  | .windows => WindowsTests.assemble s a

/-- The benchmarks of a pipeline end it, in the order of their declaration. -/
def pipeline (s : Settings) (id : PipelineId) : Except ConfigError Pipeline := do
  let stock ← s.assembleStock (.start s.testBaseName) id
  return (stock.addSteps ((s.benchmarksFor id).map benchmarkStep)).finish

def deploy (s : Settings) : Except ConfigError Catalogue := do
  let linuxBuild ← s.pipeline .linuxBuild
  let linuxSmall ← s.pipeline .linuxSmall
  let windows ← s.pipeline .windows
  let builders := TreeBuild.builders ++ TreeTests.builders ++ WindowsTests.builders
  Builder.checkNames builders
  return { builders, pipelines := ⟨some linuxBuild, some linuxSmall, some windows⟩ }

end Settings

end RaceFarm
