import RaceFarm.Benchmark.Result
import RaceFarm.Benchmark.Spec
import RaceFarm.Severity

namespace RaceFarm

/-- Everything a benchmark has reported so far, judged by its expectations. -/
structure Monitor where
  spec : BenchmarkSpec
  processed : Bool
  results : List PerfResult
  regressions : List String
  improvements : List String
  malformed : List String

namespace Monitor

def start (spec : BenchmarkSpec) : Monitor :=
  { spec, processed := false, results := [], regressions := [], improvements := []
    malformed := [] }

def deviation (m : Monitor) (r : PerfResult) : Option Deviation :=
  (m.spec.expectations.get? r.key).bind (·.check r.value)

def addResult (m : Monitor) (r : PerfResult) : Monitor :=
  let m :=
    match m.deviation r with
    | some .regress => { m with regressions := m.regressions ++ [r.key] }
    | some .improve => { m with improvements := m.improvements ++ [r.key] }
    | none => m
  { m with results := m.results ++ [r] }

def addLine (m : Monitor) : LogLine → Monitor
  | .result r => m.addResult r
  | .malformed text => { m with malformed := m.malformed ++ [text] }
  | .other => m

def addLines (m : Monitor) (lines : List LogLine) : Monitor :=
  lines.foldl addLine { m with processed := true }

def addLog (m : Monitor) (log : String) : Monitor :=
  m.addLines ((log.toList.splitOn '\n').map LogLine.ofChars)

/-- The summary of everything so far, under the revision it was measured at. -/
def summary (m : Monitor) (revision : String) : List String :=
  ["r" ++ revision] ++
  (m.results.filter (·.important)).map PerfResult.summary ++
  m.regressions.map ("PERF_REGRESS: " ++ ·) ++
  m.improvements.map ("PERF_IMPROVE: " ++ ·) ++
  m.malformed.map ("malformed result: " ++ ·)

/-- A log without any result is a failure; whatever was unexpected or unreadable is a warning. -/
def evaluate (m : Monitor) : Option Severity :=
  if ¬m.processed then none
  else if m.results = [] then some .failure
  else if m.regressions ≠ [] ∨ m.improvements ≠ [] ∨ m.malformed ≠ [] then some .warnings
  else some .success

end Monitor

end RaceFarm
