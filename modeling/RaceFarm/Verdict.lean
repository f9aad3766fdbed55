import RaceFarm.Benchmark.Monitor
import RaceFarm.Step.Basic

namespace RaceFarm

structure StepOutcome where
  shell : Severity
  log : String
deriving DecidableEq

namespace StepOutcome

def exited (code : Int) (log : String) : StepOutcome := ⟨.ofExitCode code, log⟩

def toJson (o : StepOutcome) : Json :=
  .object [("shell", o.shell.toJson), ("log", .str o.log)]

structure Draft where
  shell : Option Severity
  log : Option String

def shape : Json.Shape Draft StepOutcome where
  name := "StepOutcome"
  closed := false
  blank := ⟨none, none⟩
  fields := [
    { name := "shell"
      optional := false
      filled := (·.shell.isSome)
      read := fun draft text => do
        let (value, rest) ← Severity.reader text
        return ({ draft with shell := some value }, rest) },
    { name := "log"
      optional := false
      filled := (·.log.isSome)
      read := fun draft text => do
        let (value, rest) ← Json.readString text
        return ({ draft with log := some value }, rest) }]
  finish := fun draft => do
    return {
      shell := ← Json.require "shell" draft.shell
      log := ← Json.require "log" draft.log }

def reader : Json.Reader StepOutcome := shape.read

end StepOutcome

/-- What the processing of a log came to. -/
structure LogReport where
  lines : List String
  severity : Option Severity
  link : Option String
deriving DecidableEq

structure Verdict where
  shell : Severity
  log : Option Severity
  severity : Severity
  resultText : List String
  reportLink : Option String
deriving DecidableEq

namespace Verdict

/-- The verdict of a step whose log is not processed. -/
def shellOnly (shell : Severity) : Verdict :=
  { shell, log := none, severity := shell, resultText := [], reportLink := none }

/-- The worse of the shell result and the log's counts. -/
def withLog (shell : Severity) (report : LogReport) : Verdict :=
  { shell
    log := report.severity
    severity := report.severity.elim shell shell.combine
    resultText := report.lines
    reportLink := report.link }

def toJson (v : Verdict) : Json :=
  .object [
    ("shell", v.shell.toJson),
    ("log", Json.optional Severity.toJson v.log),
    ("severity", v.severity.toJson),
    ("result_text", .texts v.resultText),
    ("report_link", Json.optional .str v.reportLink)]

end Verdict

namespace Monitor

def report (m : Monitor) (revision : String) : LogReport :=
  { lines := m.summary revision, severity := m.evaluate, link := some m.spec.reportLink }

end Monitor

namespace StepOutcome

/-- The verdict outside a run, on a plain step or on a benchmark. -/
def judge (o : StepOutcome) (spec : Option BenchmarkSpec) (revision : String) : Verdict :=
  match spec with
  | none => .shellOnly o.shell
  | some spec => .withLog o.shell (((Monitor.start spec).addLog o.log).report revision)

/-- The revision that a capturing step with this outcome publishes. A failed step publishes none, so
    that an error text never becomes a revision. -/
def captured (o : StepOutcome) : Option String :=
  if o.shell = .failure then none else parseRevision o.log

end StepOutcome

/-- The verdict within a run, and the run's revision after the step. -/
def Step.judge (s : Step) (o : StepOutcome) (slot : RevisionSlot) :
    Except RevisionConflict (Verdict × RevisionSlot) :=
  match s.completion with
  | none => .ok (.shellOnly o.shell, slot)
  | some .captureRevision =>
    match o.captured with
    | none => .ok (.shellOnly o.shell, slot)
    | some revision => (slot.publish revision).map fun slot => (.shellOnly o.shell, slot)
  | some (.processLog spec) => .ok (o.judge (some spec) slot.orUnknown, slot)

end RaceFarm
