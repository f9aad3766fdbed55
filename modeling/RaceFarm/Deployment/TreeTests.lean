import RaceFarm.Deployment.TreeBuild

namespace RaceFarm.TreeTests

def outputTests (width arch : String) : Step :=
  .run .shell
    (.shell ("make -C unittest OS=linux ARCH=" ++ arch ++
      " TSAN=\"../tsan.sh\" run_output_tests"))
    ("running output tests " ++ width) ("output tests " ++ width)

def config : CheckerConfig :=
  { CheckerConfig.plain .valgrind .hybrid with extraArgs := ["--error_exitcode=1"] }

/-- The variants that are tested under valgrind. -/
def testedVariants : List Variant := [
  .plain .linux .x64 .o0 false,
  (Variant.plain .linux .x32 .o1 false).tagged .pic]

/-- Tests the packed tree: the checker's own tests, its output, and some of the unit tests. -/
def orders (shipped : List Variant) : List Order :=
  [.prebuilt shipped] ++
  Step.setUpTree.map .step ++
  [.toolTests ["amd64-linux-debug", "x86-linux-debug"],
    .step (outputTests "64" "amd64"), .step (outputTests "32" "x86")] ++
  testedVariants.map (.test · config)

def builders : List Builder := [
  { name := "buildbot-linux-small", agent := "bot6name", buildDir := "full_linux_small"
    pipeline := .linuxSmall }]

end RaceFarm.TreeTests
