import RaceFarm.Binary64.Numeral
import RaceFarm.CommandLine.Switch

namespace RaceFarm.CommandLine

inductive Format where
  | json
  | text
deriving DecidableEq

structure GenerateJob where
  settings : Option String
  builders : List String
  format : Format
  /-- Path that receives the report in place of the standard output. -/
  out : Option String
  commit : Option String
deriving DecidableEq

structure EvaluateJob where
  exitCode : Int
  log : Option String
  /-- Platform and name. -/
  benchmark : Option String
  expectations : Option String
  revision : Option String
  format : Format
  commit : Option String
deriving DecidableEq

inductive Job where
  | generate (job : GenerateJob)
  | evaluate (job : EvaluateJob)
  /-- Prints the revision in a marker file. -/
  | revision (path : String)
deriving DecidableEq

/-- A path is never empty. -/
def readPath (value : String) : Option String :=
  if value = "" then none else some value

def readFormat (value : String) : Option Format :=
  [("json", Format.json), ("text", Format.text)].lookup value

/-- A decimal number of 32 bits with an optional sign. -/
def readExitCode (value : String) : Option Int :=
  let (negative, digits) := Binary64.takeSign value.toList
  let magnitude : Int := Binary64.ofDigits digits
  let code := if negative then -magnitude else magnitude
  if digits ≠ [] ∧ digits.all Char.isDigit ∧ -0x80000000 ≤ code ∧ code < 0x80000000 then
    some code
  else none

structure GenerateDraft where
  logLevel : Option String
  settings : Option String
  builders : List String
  format : Option Format
  out : Option String
  commit : Option String

def generateSwitches : List (Switch GenerateDraft) := [
  .single "log-level" some (·.logLevel) fun draft value => { draft with logLevel := some value },
  .single "settings" readPath (·.settings) fun draft value => { draft with settings := some value },
  { name := "builder"
    signed := false
    take := fun draft value => .ok { draft with builders := draft.builders ++ [value] } },
  .single "format" readFormat (·.format) fun draft value => { draft with format := some value },
  .single "out" readPath (·.out) fun draft value => { draft with out := some value },
  .single "commit" some (·.commit) fun draft value => { draft with commit := some value }]

def GenerateJob.ofWords (words : List String) : Except Stop GenerateJob := do
  let draft ← readAll generateSwitches ⟨none, none, [], none, none, none⟩ words
  return {
    settings := draft.settings
    builders := draft.builders
    format := draft.format.getD .json
    out := draft.out
    commit := draft.commit }

structure EvaluateDraft where
  logLevel : Option String
  exitCode : Option Int
  log : Option String
  benchmark : Option String
  expectations : Option String
  revision : Option String
  format : Option Format
  commit : Option String

def evaluateSwitches : List (Switch EvaluateDraft) := [
  .single "log-level" some (·.logLevel) fun draft value => { draft with logLevel := some value },
  { Switch.single "exit-code" readExitCode EvaluateDraft.exitCode
      fun draft value => { draft with exitCode := some value } with
    signed := true },
  .single "log" readPath (·.log) fun draft value => { draft with log := some value },
  .single "benchmark" some (·.benchmark) fun draft value => { draft with benchmark := some value },
  .single "expectations" readPath (·.expectations)
    fun draft value => { draft with expectations := some value },
  .single "revision" some (·.revision) fun draft value => { draft with revision := some value },
  .single "format" readFormat (·.format) fun draft value => { draft with format := some value },
  .single "commit" some (·.commit) fun draft value => { draft with commit := some value }]

/-- The exit code is required, and expected ranges are of no use without a benchmark. -/
def EvaluateJob.ofWords (words : List String) : Except Stop EvaluateJob := do
  let draft ← readAll evaluateSwitches ⟨none, none, none, none, none, none, none, none⟩ words
  match draft.exitCode with
  | none => throw (.misuse (.missingSwitch "exit-code"))
  | some exitCode =>
    if draft.expectations.isSome ∧ draft.benchmark.isNone then
      throw (.misuse (.missingSwitch "benchmark"))
    return {
      exitCode
      log := draft.log
      benchmark := draft.benchmark
      expectations := draft.expectations
      revision := draft.revision
      format := draft.format.getD .json
      commit := draft.commit }

structure RevisionDraft where
  logLevel : Option String
  path : Option String

def revisionSwitches : List (Switch RevisionDraft) := [
  .single "log-level" some (·.logLevel) fun draft value => { draft with logLevel := some value },
  .single "file" readPath (·.path) fun draft value => { draft with path := some value }]

def markerFile : String := "REVISION"

def revisionPath (words : List String) : Except Stop String := do
  let draft ← readAll revisionSwitches ⟨none, none⟩ words
  return draft.path.getD markerFile

/-- The switch that may also stand before the command. -/
def rootSwitches : List (Switch (Option String)) := [
  .single "log-level" some id fun _ value => some value]

/-- Help on a command may be asked for by its name. -/
def helpOn : List String → Stop
  | [] => .help
  | word :: words =>
    if word ∈ ["generate", "evaluate", "revision", "help"] then
      match words with
      | [] => .help
      | next :: _ => .misuse (.unknownCommand next)
    else .misuse (.unknownCommand word)

/-- The command decides which switches may follow it. -/
def Job.ofCommand (name : String) (words : List String) : Except Stop Job :=
  match name with
  | "generate" => (GenerateJob.ofWords words).map .generate
  | "evaluate" => (EvaluateJob.ofWords words).map .evaluate
  | "revision" => (revisionPath words).map .revision
  | "help" => .error (helpOn words)
  | name => .error (.misuse (.unknownCommand name))

def Job.ofArgs (args : List String) : Except Stop Job := do
  match ← readSwitches true rootSwitches none args with
  | (_, []) => throw (.misuse .missingCommand)
  | (_, name :: words) => Job.ofCommand name words

end RaceFarm.CommandLine
