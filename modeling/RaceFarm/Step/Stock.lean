import RaceFarm.Step.Basic

namespace RaceFarm.Step

def buildTree : String := "build/linux_build.tgz"

def fileMode : Nat := 0o644

def programMode : Nat := 0o755

def clobber : Step :=
  run .shell (.shell "rm -rf -- *") "clobbering build dir" "clobber build dir"

/-- Packs under a temporary name first, so that the final name never shows half an archive. -/
def pack (archive : String) (paths : List String) : Step :=
  let line := "tar czvf " ++ archive ++ ".tmp " ++ " ".intercalate paths ++ " && mv " ++ archive ++
    ".tmp " ++ archive ++ " && chmod 644 " ++ archive
  run .shell (.shell line) "packing build tree" "pack build tree"

def unpack (archive : String) : Step :=
  run .shell (.argv ["tar", "xzvf", archive]) "extract build tree" "extract build tree"

def uploadTree (archive : String) : Step :=
  upload archive (.fixed buildTree) fileMode

/-- Notes the revision of the working copy in the marker file. -/
def writeMarker : Step :=
  run .shell (.shell "svnversion . >REVISION") "writing revision marker" "write revision marker"

/-- Prints the marker file; the output becomes the run's revision. -/
def readMarker : Step :=
  (run .shell (.shell "cat REVISION") "getting revision" "get revision").withCompletion
    .captureRevision

/-- Fetches and unpacks the build tree, and learns its revision. -/
def setUpTree : List Step := [
  clobber,
  download buildTree "full_build.tar.gz" fileMode,
  download "public_html/binaries/memcheck-latest-amd64-linux-self-contained.sh" "memcheck64.sh"
    programMode,
  download "public_html/binaries/memcheck-latest-x86-linux-self-contained.sh" "memcheck32.sh"
    programMode,
  unpack "full_build.tar.gz",
  readMarker]

/-- Publishes local files under remote names, in which `%s` stands for the revision. -/
def uploadBinaries (binaries : List (String × String)) : List Step :=
  binaries.map fun (file, remote) =>
    upload file (.withRevision ("public_html/binaries/" ++ remote)) programMode

/-- Runs one gtest binary of the checker itself; `label` names what it tests. -/
def toolTest (separator : String) (program : String × String) (target : String) : Step :=
  let (binary, label) := program
  run .test (.shell ("tsan" ++ separator ++ "bin" ++ separator ++ target ++ "-" ++ binary))
    ("testing " ++ label ++ " (" ++ target ++ ")") ("test " ++ label ++ " (" ++ target ++ ")")

/-- The path separator of a target's system. -/
def pathSeparator (target : String) : String :=
  if Text.mentions "windows".toList target.toList then "\\" else "/"

/-- All suppression tests, then all checker tests, with the separator of the first target. -/
def toolTests (first : String) (others : List String) : List Step :=
  [("suppressions_test", "suppressions"), ("thread_sanitizer_test", "thread_sanitizer")].flatMap
    fun program => (first :: others).map (toolTest (pathSeparator first) program)

def benchmark (spec : BenchmarkSpec) (command : Command) : Step :=
  (run .shell command ("running " ++ spec.benchmark ++ " benchmark")
    (spec.benchmark ++ " benchmark")).withCompletion (.processLog spec)

end RaceFarm.Step
