import RaceFarm.CommandLine.Disk
import RaceFarm.CommandLine.Job
import RaceFarm.Report.Judgement

namespace RaceFarm.CommandLine

inductive Answer where
  /-- Exits with a code after printing. -/
  | done (code : Nat) (output : String)
  | failed (error : JobError)
  | misused (misuse : Misuse)

/-- A job that fails and a verdict of warnings exit alike. -/
def Answer.code : Answer → Nat
  | done code _ => code
  | failed _ => 1
  | misused _ => 2

def version : String := "0.1.0"

def tool (commit : Option String) : Tool :=
  { name := "racebot-cli", version, commit }

def versionText : String := "racebot " ++ version ++ "\n"

def helpText : String :=
  "CI pipeline generator and step classifier for the race checker\n\n" ++
  "racebot generate [--settings FILE] [--builder NAME]... [--format json|text] [--out FILE]\n" ++
  "    [--commit HASH]\n" ++
  "racebot evaluate --exit-code CODE [--log FILE] [--benchmark PLATFORM/NAME]\n" ++
  "    [--expectations FILE] [--revision REVISION] [--format json|text] [--commit HASH]\n" ++
  "racebot revision [--file FILE]\n"

/-- A platform and a name with one slash between them, and no expected ranges yet. -/
def benchmarkNamed? (text : String) : Option BenchmarkSpec :=
  match Text.cutAt '/' text.toList with
  | some (platform, name) =>
    if platform ≠ [] ∧ name ≠ [] ∧ '/' ∉ name then
      some {
        platform := String.ofList platform
        benchmark := String.ofList name
        expectations := .empty }
    else none
  | none => none

variable {m : Type → Type} [Monad m]

namespace GenerateJob

def report (job : GenerateJob) (disk : Disk m) : ExceptT JobError m GenerationReport := do
  let settings ←
    match job.settings with
    | some path => disk.readSettings path
    | none => pure .stock
  match GenerationReport.generate settings job.builders (tool job.commit) with
  | .ok report => return report
  | .error error => throw (.config error)

def render (job : GenerateJob) (report : GenerationReport) : String :=
  match job.format with
  | .json => report.toJson.indented
  | .text => report.render

/-- What is left to print; nothing if the report goes to a file. -/
def perform (job : GenerateJob) (disk : Disk m) : ExceptT JobError m String := do
  let text := job.render (← job.report disk)
  match job.out with
  | some path =>
    disk.writeText path text
    return ""
  | none => return text

end GenerateJob

namespace EvaluateJob

def benchmarkSpec (job : EvaluateJob) (disk : Disk m) :
    ExceptT JobError m (Option BenchmarkSpec) := do
  match job.benchmark with
  | none => return none
  | some text =>
    match benchmarkNamed? text, job.expectations with
    | none, _ => throw (.invalidBenchmark text)
    | some spec, none => return some spec
    | some spec, some path =>
      return some { spec with expectations := ← disk.readExpectations path }

def report (job : EvaluateJob) (disk : Disk m) : ExceptT JobError m VerdictReport := do
  let log ←
    match job.log with
    | some path => disk.readText path (.unreadableLog path)
    | none => pure ""
  let spec ← job.benchmarkSpec disk
  let revision := job.revision.getD unknownRevision
  return {
    tool := tool job.commit
    revision
    benchmark := spec.map fun s => s.platform ++ "/" ++ s.benchmark
    verdict := (StepOutcome.exited job.exitCode log).judge spec revision }

def render (job : EvaluateJob) (report : VerdictReport) : String :=
  match job.format with
  | .json => report.toJson.indented
  | .text => report.render

end EvaluateJob

/-- The exit code of a job that succeeds, and what it prints. -/
def Job.perform (job : Job) (disk : Disk m) : ExceptT JobError m (Nat × String) := do
  match job with
  | .generate job => return (0, ← job.perform disk)
  | .evaluate job =>
    let report ← job.report disk
    return (report.exitCode, job.render report)
  | .revision path => return (0, (← disk.readMarker path).getD unknownRevision ++ "\n")

def answer (disk : Disk m) (args : List String) : m Answer := do
  match Job.ofArgs args with
  | .error .help => return .done 0 helpText
  | .error .version => return .done 0 versionText
  | .error (.misuse misuse) => return .misused misuse
  | .ok job =>
    match ← (job.perform disk).run with
    | .ok (code, output) => return .done code output
    | .error error => return .failed error

end RaceFarm.CommandLine
