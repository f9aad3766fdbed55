import RaceFarm.Checker.Config

namespace RaceFarm

/-- Checks the race verifier in two passes: the first logs the races that its tests expect, the
    second runs the tests again with the log as its guide. -/
structure RaceVerifier where
  logFile : String
  testFilter : String

namespace RaceVerifier

def stock : RaceVerifier :=
  { logFile := "raceverifier.log", testFilter := "--gtest_filter=\"RaceVerifierTests.*\"" }

def firstPass (v : RaceVerifier) (c : CheckerConfig) : CheckerConfig :=
  { c with
    extraArgs := ["--show-expected-races", "--error_exitcode=1"]
    extraTestArgs := [v.testFilter]
    append := some ("2>&1 | tee " ++ v.logFile) }

def secondPass (v : RaceVerifier) (c : CheckerConfig) : CheckerConfig :=
  { c with
    extraArgs := ["--error_exitcode=1", "--race-verifier=" ++ v.logFile]
    extraTestArgs := [v.testFilter]
    append := some "2>&1" }

end RaceVerifier

end RaceFarm
