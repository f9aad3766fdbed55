import RaceFarm.Command
import RaceFarm.ConfigError

namespace RaceFarm

/-- How to run the race checker on a test binary. -/
structure CheckerConfig where
  frontend : Frontend
  mode : Mode
  debug : Bool
  threaded : Bool
  /-- Checker arguments right after the wrapper. -/
  extraArgs : List String
  extraTestArgs : List String
  /-- Limit in milliseconds. -/
  timeout : Option Nat
  /-- Stands in for the frontend's own wrapper. -/
  wrapper : Option String
  pinRoot : Option String
  /-- Tokens before the wrapper, such as a time limiter. -/
  launcher : List String
  /-- Shell text after the command, which makes it a shell line. -/
  append : Option String
deriving DecidableEq

/-- A command with its environment, and the words that describe it. -/
structure Invocation where
  command : Command
  env : Env
  label : String
deriving DecidableEq

namespace CheckerConfig

def defaultTimeout : Nat := 1800000

def plain (frontend : Frontend) (mode : Mode) : CheckerConfig :=
  { frontend, mode, debug := false, threaded := false, extraArgs := [], extraTestArgs := []
    timeout := some defaultTimeout, wrapper := none, pinRoot := none, launcher := []
    append := none }

def isModeFlag (arg : String) : Bool :=
  Text.startsWith "--pure-happens-before" arg

/-- Flags that choose between pin's own tools. -/
def isPinFlag (arg : String) : Bool :=
  ["--dbg", "--opt", "--mt"].contains arg

/-- The mark between checker arguments and the test binary on windows. -/
def separator : String := "--"

def argError (frontend : Frontend) (arg : String) : Option ConfigError :=
  if isModeFlag arg then some (.modeFlagInArgs arg)
  else if (isPinFlag arg ∧ frontend ≠ .pin) ∨ (arg = separator ∧ frontend ≠ .pinWin) then
    some (.foreignFlag frontend arg)
  else none

def isForeignWrapper (frontend : Frontend) (wrapper : String) : Bool :=
  Frontend.all.any fun other => other ≠ frontend ∧ wrapper ∈ other.wrappers

/-- Refuses arguments that would give a second mode flag or belong to another frontend, and then
    a wrapper of another frontend. -/
def validate (c : CheckerConfig) : Except ConfigError Unit :=
  match (c.extraArgs ++ c.extraTestArgs).findSome? (argError c.frontend) with
  | some error => .error error
  | none =>
    match c.wrapper with
    | some wrapper =>
      if isForeignWrapper c.frontend wrapper then .error (.foreignWrapper c.frontend wrapper)
      else .ok ()
    | none => .ok ()

def label (c : CheckerConfig) : String :=
  "tsan-" ++ c.frontend.name ++ (if c.threaded then "-MT" else "") ++
    " (" ++ (if c.debug then "debug," else "") ++ c.mode.name ++ ")"

def env (c : CheckerConfig) : Env :=
  match c.frontend with
  | .valgrind => .ofList [("VALGRIND_EXTRACT_DIR", ".")]
  | .pin => .ofList ((c.pinRoot.map ("PIN_ROOT", ·)).toList ++ [("TS_ROOT", "tsan")])
  | .pinWin => .empty

/-- The frontend's own wrapper for this kind of run. -/
def defaultWrapper (c : CheckerConfig) : String :=
  match c.frontend with
  | .valgrind => if c.debug then "./tsan-debug.sh" else "./tsan.sh"
  | .pin => "tsan/tsan_pin.sh"
  | .pinWin =>
    if c.threaded then "out\\tsan-x86-windows\\tsan_mt.bat"
    else if c.debug then "out\\tsan-x86-windows\\tsan-debug.bat"
    else "out\\tsan-x86-windows\\tsan.bat"

/-- The frontend's flags, then the mode and the two lists of known reports. The windows wrapper
    passes on everything after the separator to the test binary. -/
def flags (c : CheckerConfig) : List String :=
  (match c.frontend with
    | .pin => (if c.debug then "--dbg" else "--opt") :: (if c.threaded then ["--mt"] else [])
    | _ => []) ++
  [c.mode.flag, "--suppressions=unittest/racecheck_unittest.supp",
    "--ignore=unittest/racecheck_unittest.ignore"] ++
  (if c.frontend = .pinWin then [separator] else [])

def arguments (c : CheckerConfig) (binary : String) : List String :=
  c.extraArgs ++ c.flags ++ [binary] ++ c.extraTestArgs

def command (c : CheckerConfig) (binary : String) : Command :=
  let args := c.launcher ++ c.wrapper.getD c.defaultWrapper :: c.arguments binary
  match c.append with
  | some text => .shell (" ".intercalate (args ++ [text]))
  | none => .argv args

def invoke (c : CheckerConfig) (binary : String) : Except ConfigError Invocation := do
  c.validate
  return { command := c.command binary, env := c.env, label := c.label }

end CheckerConfig

end RaceFarm
