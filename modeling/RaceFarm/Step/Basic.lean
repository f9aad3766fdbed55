import RaceFarm.Benchmark.Spec
import RaceFarm.Command
import RaceFarm.Revision
import RaceFarm.Text.Cut

namespace RaceFarm

inductive StepKind where
  | compile
  | test
  | shell
deriving DecidableEq

def StepKind.name : StepKind → String
  | compile => "compile"
  | test => "test"
  | shell => "shell"

inductive Destination where
  | fixed (path : String)
  /-- A path whose `%s` is filled with the run's revision. -/
  | withRevision (template : String)
deriving DecidableEq

namespace Destination

/-- Only the first `%s` is filled. -/
def resolve (d : Destination) (slot : RevisionSlot) : String :=
  match d with
  | fixed path => path
  | withRevision template =>
    String.ofList (Text.fillFirst "%s".toList slot.orUnknown.toList template.toList)

/-- The path or template as it was given. -/
def text : Destination → String
  | fixed path | withRevision path => path

def toJson : Destination → Json
  | fixed path => .object [("fixed", .str path)]
  | withRevision template => .object [("with_revision", .str template)]

end Destination

inductive Action where
  | checkout (svnurl mode : String)
  | command (kind : StepKind) (command : Command) (env : Env)
  | upload (source : String) (destination : Destination) (mode : Nat)
  | download (source destination : String) (mode : Nat)
deriving DecidableEq

def Action.toJson : Action → Json
  | checkout svnurl mode =>
    .object [("action", .str "checkout"), ("svnurl", .str svnurl), ("mode", .str mode)]
  | command kind what env =>
    .object [("action", .str "command"), ("kind", .str kind.name), ("command", what.toJson),
      ("env", Json.table .str env)]
  | upload source destination mode =>
    .object [("action", .str "upload"), ("source", .str source),
      ("destination", destination.toJson), ("mode", .whole mode)]
  | download source destination mode =>
    .object [("action", .str "download"), ("source", .str source),
      ("destination", .str destination), ("mode", .whole mode)]

/-- What is made of a step's output once it has run. -/
inductive Completion where
  | captureRevision
  | processLog (spec : BenchmarkSpec)
deriving DecidableEq

def Completion.toJson : Completion → Json
  | captureRevision => .object [("type", .str "capture_revision")]
  | processLog spec => .object (("type", .str "process_log") :: spec.members)

structure Step where
  action : Action
  /-- Shown while the step runs. -/
  description : String
  /-- Shown when the step has run. -/
  descriptionDone : String
  /-- Ends the run if the step fails. -/
  fatal : Bool
  timeoutSecs : Option Nat
  completion : Option Completion
deriving DecidableEq

namespace Step

def ofAction (action : Action) (description descriptionDone : String) : Step :=
  { action, description, descriptionDone, fatal := true, timeoutSecs := none, completion := none }

/-- Runs a command without an environment of its own. -/
def run (kind : StepKind) (command : Command) (description descriptionDone : String) : Step :=
  ofAction (.command kind command .empty) description descriptionDone

def checkout (svnurl : String) : Step :=
  ofAction (.checkout svnurl "copy") "checking out sources" "checkout sources"

def upload (source : String) (destination : Destination) (mode : Nat) : Step :=
  ofAction (.upload source destination mode) ("uploading " ++ source) ("upload " ++ source)

def download (source destination : String) (mode : Nat) : Step :=
  ofAction (.download source destination mode) ("downloading " ++ destination)
    ("download " ++ destination)

def nonFatal (s : Step) : Step := { s with fatal := false }

/-- A limit in milliseconds, kept in whole seconds. -/
def withTimeout (s : Step) (timeout : Option Nat) : Step :=
  { s with timeoutSecs := timeout.map (· / 1000) }

def withCompletion (s : Step) (completion : Completion) : Step :=
  { s with completion := some completion }

def command? (s : Step) : Option Command :=
  match s.action with
  | .command _ command _ => some command
  | _ => none

def env? (s : Step) : Option Env :=
  match s.action with
  | .command _ _ env => some env
  | _ => none

def kind? (s : Step) : Option StepKind :=
  match s.action with
  | .command kind _ _ => some kind
  | _ => none

def destination? (s : Step) : Option Destination :=
  match s.action with
  | .upload _ destination _ => some destination
  | _ => none

def toJson (s : Step) : Json :=
  .object [
    ("action", s.action.toJson),
    ("description", .str s.description),
    ("description_done", .str s.descriptionDone),
    ("fatal", .bool s.fatal),
    ("timeout_secs", Json.optional (fun (n : Nat) => .whole n) s.timeoutSecs),
    ("completion", Json.optional Completion.toJson s.completion)]

end Step

end RaceFarm
