import RaceFarm.Catalogue
import RaceFarm.Settings

namespace RaceFarm.WindowsTests

def makeTool (pinRoot : String) (jobs : List String) (target : String) : Command :=
  .argv (["make", "-C", "tsan"] ++ jobs ++ ["VALGRIND_ROOT=", "PIN_ROOT=" ++ pinRoot, target])

def toolSteps (s : Settings) : List Step := [
  .checkout s.svnurl,
  .writeMarker,
  .readMarker,
  .run .compile (makeTool s.windowsPinRoot ["-j4"] "w32o") "building tsan with pin"
    "build tsan with pin",
  .run .compile (makeTool s.windowsPinRoot ["-j4"] "w32d") "building tsan-debug with pin"
    "build tsan-debug with pin",
  .run .compile (makeTool s.windowsPinRoot [] "w32-sfx") "packing sfx binary" "pack sfx binary",
  .run .shell (.shell "bash -c 'mkdir -p out; cd out; ../tsan/tsan-x86-windows-sfx.exe'")
    "extracting sfx" "extract sfx"]

/-- A run of the unit tests on one variant. -/
structure TestRun where
  variant : Variant
  debug : Bool
  mode : Mode

namespace TestRun

def request (run : TestRun) : BuildRequest :=
  { variant := run.variant, pic := false, extraArgs := [] }

def config (run : TestRun) (pinRoot : String) : CheckerConfig :=
  { CheckerConfig.plain .pinWin run.mode with
    debug := run.debug
    pinRoot := some pinRoot
    timeout := none
    extraArgs := ["--error_exitcode=1"] }

end TestRun

/-- The runs in their order. Those on the same variant share its build. -/
def testMatrix : List TestRun := [
  { variant := .plain .windows .x32 .o1 false, debug := true, mode := .hybrid },
  { variant := .plain .windows .x32 .o1 false, debug := true, mode := .phb },
  { variant := .plain .windows .x32 .o0 false, debug := false, mode := .phb }]

/-- Builds a variant, tests the one that the build answers with, and runs the race verifier on it. -/
def addRun (s : Settings) (a : Assembly) (run : TestRun) : Except ConfigError Assembly :=
  match a.build run.request with
  | (_, .error error) => .error error
  | (a, .ok built) =>
    let config := run.config s.windowsPinRoot
    a.follow [.test built.variant config, .raceVerifier built.variant config .stock]

def uploads : List Step :=
  Step.uploadBinaries [("tsan\\tsan-x86-windows-sfx.exe", "tsan-r%s-x86-windows-sfx.exe")]

/-- Builds the checker with pin, tests it, and publishes it. -/
def assemble (s : Settings) (a : Assembly) : Except ConfigError Assembly := do
  let a ← a.follow ((toolSteps s).map .step ++ [.toolTests ["x86-windows-debug"]])
  let a ← testMatrix.foldlM (addRun s) a
  return a.addSteps uploads

def builders : List Builder := [
  { name := "buildbot-winxp", agent := "vm10-m3", buildDir := "full_winxp", pipeline := .windows },
  { name := "buildbot-vista", agent := "vm50-m3", buildDir := "full_vista", pipeline := .windows },
  { name := "buildbot-win7", agent := "vm51-m3", buildDir := "full_win7", pipeline := .windows }]

end RaceFarm.WindowsTests
