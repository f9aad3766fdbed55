import RaceFarm.Assembly
import RaceFarm.Verdict

namespace RaceFarm

structure StepRecord where
  index : Nat
  description : String
  verdict : Verdict
deriving DecidableEq

def StepRecord.toJson (r : StepRecord) : Json :=
  .object [("index", .whole r.index), ("description", .str r.description),
    ("verdict", r.verdict.toJson)]

inductive RunError where
  | noPendingStep
  | conflict (conflict : RevisionConflict)
deriving DecidableEq

def RunError.message : RunError → String
  | noPendingStep => "pipeline run has no pending step (finished or halted)"
  | conflict c => c.message

structure RunSummary where
  severity : Severity
  executed : Nat
  /-- Steps that never ran, pending ones included. -/
  notRun : Nat
  haltedAt : Option Nat
  revision : String
deriving DecidableEq

def RunSummary.toJson (s : RunSummary) : Json :=
  .object [
    ("severity", s.severity.toJson),
    ("executed", .whole s.executed),
    ("not_run", .whole s.notRun),
    ("halted_at", Json.optional (fun (n : Nat) => .whole n) s.haltedAt),
    ("revision", .str s.revision)]

structure Run where
  pipeline : Pipeline
  slot : RevisionSlot
  records : List StepRecord
  haltedAt : Option Nat

namespace Run

def start (pipeline : Pipeline) : Run :=
  { pipeline, slot := .empty, records := [], haltedAt := none }

/-- The step to execute next; none once the run is finished or halted. -/
def next (r : Run) : Option Step :=
  match r.haltedAt with
  | some _ => none
  | none => r.pipeline.steps[r.records.length]?

def isFinished (r : Run) : Bool := r.next.isNone

def append (r : Run) (step : Step) (verdict : Verdict) : Run :=
  { r with
    records := r.records ++
      [{ index := r.records.length, description := step.descriptionDone, verdict }] }

def halt (r : Run) : Run := { r with haltedAt := some r.records.length }

/-- Takes in the outcome of the pending step. A fatal step that failed halts the run, and so does a
    second revision, which makes its step a failure. -/
def record (r : Run) (o : StepOutcome) : Run × Except RunError Verdict :=
  match r.next with
  | none => (r, .error .noPendingStep)
  | some step =>
    match step.judge o r.slot with
    | .error c =>
      let verdict := { Verdict.shellOnly .failure with resultText := [c.message] }
      (r.halt.append step verdict, .error (.conflict c))
    | .ok (verdict, slot) =>
      let r := { r with slot }
      if verdict.severity = .failure ∧ step.fatal then (r.halt.append step verdict, .ok verdict)
      else (r.append step verdict, .ok verdict)

/-- Takes in outcomes in turn, also those that come after the end. -/
def recordAll (r : Run) (outcomes : List StepOutcome) : Run :=
  outcomes.foldl (fun r o => (r.record o).1) r

def summary (r : Run) : RunSummary :=
  { severity := .combineAll (r.records.map (·.verdict.severity))
    executed := r.records.length
    notRun := r.pipeline.steps.length - r.records.length
    haltedAt := r.haltedAt
    revision := r.slot.orUnknown }

end Run

end RaceFarm
