import RaceFarm.Catalogue
import RaceFarm.Settings

namespace RaceFarm.TreeBuild

/-- The unit tests of the whole linux matrix, and one build of position-independent code. -/
def testBuilds : List BuildRequest :=
  ([Bits.x32, .x64].flatMap fun bits =>
    [OptLevel.o0, .o1].flatMap fun opt =>
      [false, true].map fun static =>
        { variant := .plain .linux bits opt static, pic := false, extraArgs := [] }) ++
  [{ variant := .plain .linux .x32 .o1 false, pic := true, extraArgs := [] }]

/-- The variants whose binaries are in the packed tree. -/
def shippedVariants : Except ConfigError (List Variant) :=
  testBuilds.mapM fun r => r.build.map (·.variant)

def archive : String := "../full_build.tar.gz"

def archivedPaths : List String := [
  "tsan*.sh", "tsan/bin*/tsan*.sh", "tsan/bin*/*_test", "tsan/bin*/*ts_pin.so",
  "tsan/bin*/*ts_pinmt.so", "tsan/tsan_pin.sh", "unittest", "common.mk", "REVISION"]

def pathFlags : List String := [
  "OFFLINE=", "VALGRIND_INST_ROOT=../out", "VALGRIND_ROOT=../third_party/valgrind",
  "PIN_ROOT=../../../../third_party/pin"]

/-- The flags of a build for one width, into directories of its own and without pin. -/
def widthFlags (width : String) : List String := [
  "OFFLINE=", "OUTDIR=bin" ++ width, "VALGRIND_INST_ROOT=../out" ++ width,
  "VALGRIND_ROOT=../third_party/valgrind" ++ width, "PIN_ROOT="]

def makeTool (args : List String) : Command :=
  .argv (["make", "-C", "tsan"] ++ args)

/-- A self-contained package of the checker. -/
def packTool (flags : List String) (arch debug target note : String) : Step :=
  .run .shell (makeTool (flags ++ ["OS=linux", "ARCH=" ++ arch, "DEBUG=" ++ debug, target]))
    ("packing self-contained tsan" ++ note) ("pack self-contained tsan" ++ note)

def buildForWidth (width target arch : String) : List Step := [
  .run .compile (makeTool (["-j2", "OFFLINE="] ++ widthFlags width ++ [target]))
    ("building " ++ width ++ "-bit tsan") ("build " ++ width ++ "-bit tsan"),
  packTool (widthFlags width) arch "0" "self-contained-stripped" (" (" ++ width ++ "-bit)")]

/-- Packages and the names they go by at the root of the tree. -/
def links : List (String × String) := [
  ("tsan/bin/tsan-amd64-linux-self-contained.sh", "tsan.sh"),
  ("tsan/bin/tsan-amd64-linux-debug-self-contained.sh", "tsan-debug.sh"),
  ("tsan/bin32/tsan-x86-linux-self-contained.sh", "tsan32.sh"),
  ("tsan/bin64/tsan-amd64-linux-self-contained.sh", "tsan64.sh")]

def linkStep : Step :=
  .run .shell
    (.shell (" && ".intercalate (links.map fun (file, link) => "ln -s " ++ file ++ " " ++ link)))
    "symlinking tsan" "symlink tsan"

/-- Packages and the names they are published under. -/
def binaries : List (String × String) := [
  ("tsan/bin/tsan-amd64-linux-debug-self-contained.sh",
    "tsan-r%s-amd64-linux-debug-self-contained.sh"),
  ("tsan/bin/tsan-amd64-linux-self-contained.sh", "tsan-r%s-amd64-linux-self-contained.sh"),
  ("tsan/bin32/tsan-x86-linux-self-contained.sh", "tsan-r%s-x86-linux-self-contained.sh"),
  ("tsan/bin64/tsan-amd64-linux-self-contained.sh",
    "tsan-r%s-amd64only-linux-self-contained.sh")]

def toolSteps (s : Settings) : List Step := [
  .checkout s.svnurl,
  .writeMarker,
  .readMarker,
  .run .shell (.argv ["wget", s.valgrindBuildUrl]) "getting valgrind build" "get valgrind build",
  .unpack "valgrind_build.tar.gz",
  .run .compile (makeTool ("-j2" :: pathFlags ++ ["lo", "ld"])) "building tsan" "build tsan",
  packTool pathFlags "amd64" "1" "self-contained" " (debug)",
  packTool pathFlags "amd64" "0" "self-contained-stripped" ""]

/-- Builds the checker and all unit tests, and packs them for the test pipelines. -/
def orders (s : Settings) : List Order :=
  (toolSteps s ++ buildForWidth "32" "l32o" "x86" ++ buildForWidth "64" "l64o" "amd64" ++
    [linkStep] ++ Step.uploadBinaries binaries).map .step ++
  testBuilds.map .build ++
  [.step (.pack archive archivedPaths), .step (.uploadTree archive)]

def builders : List Builder := [
  { name := "buildbot-linux-build", agent := "vm42-m3", buildDir := "full_linux_build"
    pipeline := .linuxBuild }]

end RaceFarm.TreeBuild
