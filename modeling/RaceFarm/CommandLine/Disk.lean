import RaceFarm.ConfigError
import RaceFarm.Revision
import RaceFarm.Settings

namespace RaceFarm.CommandLine

/-- Access to files, in whatever monad it takes place. -/
structure Disk (m : Type → Type) where
  /-- The text of a file; none if it cannot be read or is not UTF-8. -/
  read : String → m (Option String)
  /-- Puts a text into a file, and tells whether that succeeded. -/
  write : String → String → m Bool

inductive JobError where
  | unreadableSettings (path : String)
  | invalidSettings (path : String) (fault : Json.Fault)
  | config (error : ConfigError)
  | unreadableLog (path : String)
  | invalidBenchmark (text : String)
  | unreadableExpectations (path : String)
  | invalidExpectations (path : String) (fault : Json.Fault)
  | unreadableMarker (path : String)
  | unwritableOutput (path : String)

def JobError.message : JobError → String
  | unreadableSettings path => "failed to read settings file: " ++ path
  | invalidSettings path _ => "invalid settings in " ++ path
  | config error => error.message
  | unreadableLog path => "failed to read step log: " ++ path
  | invalidBenchmark text => "benchmark must be given as PLATFORM/NAME, got `" ++ text ++ "`"
  | unreadableExpectations path => "failed to read expectations: " ++ path
  | invalidExpectations path _ => "invalid expectations in " ++ path
  | unreadableMarker path => "failed to read revision marker: " ++ path
  | unwritableOutput path => "failed to write output: " ++ path

namespace Disk

variable {m : Type → Type} [Monad m] (disk : Disk m)

/-- A file that must be there. -/
def readText (path : String) (missing : JobError) : ExceptT JobError m String := do
  match ← disk.read path with
  | some text => return text
  | none => throw missing

def readSettings (path : String) : ExceptT JobError m Settings := do
  let text ← disk.readText path (.unreadableSettings path)
  match Json.decode Settings.reader text with
  | .ok settings => return settings
  | .error fault => throw (.invalidSettings path fault)

def readExpectations (path : String) : ExceptT JobError m Expectations := do
  let text ← disk.readText path (.unreadableExpectations path)
  match Json.decode Expectations.reader text with
  | .ok expectations => return expectations
  | .error fault => throw (.invalidExpectations path fault)

/-- The revision in a marker file; a blank file holds none. -/
def readMarker (path : String) : ExceptT JobError m (Option String) := do
  return parseRevision (← disk.readText path (.unreadableMarker path))

def writeText (path text : String) : ExceptT JobError m Unit := do
  unless ← disk.write path text do
    throw (.unwritableOutput path)

end Disk

end RaceFarm.CommandLine
