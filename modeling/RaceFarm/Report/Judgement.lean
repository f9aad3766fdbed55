import RaceFarm.Report.Generation
import RaceFarm.Verdict

namespace RaceFarm

structure VerdictReport where
  tool : Tool
  revision : String
  /-- Platform and name of the benchmark whose log was processed. -/
  benchmark : Option String
  verdict : Verdict
deriving DecidableEq

namespace VerdictReport

def severity (r : VerdictReport) : Severity := r.verdict.severity

def exitCode (r : VerdictReport) : Nat := r.severity.exitCode

def toJson (r : VerdictReport) : Json :=
  .object [
    ("schema_version", .str schemaVersion),
    ("tool", r.tool.toJson),
    ("revision", .str r.revision),
    ("benchmark", Json.optional .str r.benchmark),
    ("verdict", r.verdict.toJson),
    ("exit_code", .whole r.exitCode)]

/-- A labelled line, or nothing. -/
def optionalLine (label : String) : Option String → String
  | some value => label ++ value ++ "\n"
  | none => ""

def render (r : VerdictReport) : String :=
  r.tool.heading ++
  "Revision: " ++ r.revision ++ "\n" ++
  optionalLine "Benchmark: " r.benchmark ++
  "Shell result: " ++ r.verdict.shell.name ++ "\n" ++
  optionalLine "Log result: " (r.verdict.log.map Severity.name) ++
  "Severity: " ++ r.severity.name ++ "\n" ++
  String.join (r.verdict.resultText.map fun line => "  " ++ line ++ "\n") ++
  optionalLine "Report: " r.verdict.reportLink

end VerdictReport

end RaceFarm
