import RaceFarm.Text.Cut

namespace RaceFarm.CommandLine

/-- Why the arguments do not say what to do. -/
inductive Misuse where
  | unknownSwitch (word : String)
  | missingValue (switch : String)
  | invalidValue (switch value : String)
  | repeatedSwitch (switch : String)
  | missingSwitch (switch : String)
  | unexpectedWord (word : String)
  | unknownCommand (word : String)
  | missingCommand
deriving DecidableEq

def Misuse.message : Misuse → String
  | unknownSwitch word => "unknown switch `" ++ word ++ "`"
  | missingValue switch => "switch `--" ++ switch ++ "` needs a value"
  | invalidValue switch value => "switch `--" ++ switch ++ "` cannot take `" ++ value ++ "`"
  | repeatedSwitch switch => "switch `--" ++ switch ++ "` may be given once"
  | missingSwitch switch => "switch `--" ++ switch ++ "` is required"
  | unexpectedWord word => "unexpected argument `" ++ word ++ "`"
  | unknownCommand word => "unknown command `" ++ word ++ "`"
  | missingCommand => "a command is required: generate, evaluate or revision"

/-- Why the arguments are not read to their end. -/
inductive Stop where
  | help
  | version
  | misuse (misuse : Misuse)
deriving DecidableEq

inductive Word where
  /-- A lone dash is plain. -/
  | plain (text : String)
  | long (name : String) (attached : Option String)
  /-- Letters may be bunched; the first decides. -/
  | short (letter : Char)
  /-- Ends the switches. -/
  | terminator
deriving DecidableEq

namespace Word

def ofText (text : String) : Word :=
  match text.toList with
  | ['-', '-'] => terminator
  | '-' :: '-' :: name =>
    match Text.cutAt '=' name with
    | some (name, value) => long (String.ofList name) (some (String.ofList value))
    | none => long (String.ofList name) none
  | '-' :: letter :: _ => short letter
  | _ => plain text

/-- Help may be asked for anywhere; the version only before the command. -/
def stop? (versioned : Bool) : Word → Option Stop
  | long name none =>
    if name = "help" then some .help
    else if name = "version" ∧ versioned then some .version
    else none
  | short letter =>
    if letter = 'h' then some .help
    else if letter = 'V' ∧ versioned then some .version
    else none
  | _ => none

end Word

/-- A switch with a value, which is taken into a draft of a job. -/
structure Switch (δ : Type) where
  name : String
  /-- A value of its own word may begin with a dash. -/
  signed : Bool
  take : δ → String → Except Misuse δ

namespace Switch

variable {δ α : Type}

/-- A switch that may be given once. -/
def single (name : String) (read : String → Option α) (get : δ → Option α)
    (set : δ → α → δ) : Switch δ where
  name := name
  signed := false
  take draft value :=
    match read value, get draft with
    | none, _ => .error (.invalidValue name value)
    | some _, some _ => .error (.repeatedSwitch name)
    | some value, none => .ok (set draft value)

/-- Whether the next word can be the value. -/
def admits (switch : Switch δ) (word : String) : Bool :=
  switch.signed ||
    match Word.ofText word with
    | .plain _ => true
    | _ => false

def enter (switch : Switch δ) (draft : δ) (value : String) : Except Stop δ :=
  (switch.take draft value).mapError .misuse

end Switch

/-- Reads switches up to the first plain word, or to a terminator, which nothing may follow. -/
def readSwitches {δ : Type} (versioned : Bool) (switches : List (Switch δ)) :
    δ → List String → Except Stop (δ × List String)
  | draft, [] => .ok (draft, [])
  | draft, word :: words =>
    match (Word.ofText word).stop? versioned with
    | some stop => .error stop
    | none =>
      match Word.ofText word with
      | .plain _ => .ok (draft, word :: words)
      | .terminator =>
        match words with
        | [] => .ok (draft, [])
        | next :: _ => .error (.misuse (.unexpectedWord next))
      | .short _ => .error (.misuse (.unknownSwitch word))
      | .long name attached =>
        match switches.find? (·.name == name), attached with
        | none, _ => .error (.misuse (.unknownSwitch word))
        | some switch, some value => do
          readSwitches versioned switches (← switch.enter draft value) words
        | some switch, none =>
          match words with
          | [] => .error (.misuse (.missingValue name))
          | value :: words =>
            if switch.admits value then do
              readSwitches versioned switches (← switch.enter draft value) words
            else .error (.misuse (.missingValue name))

/-- Reads switches that must take up all words. -/
def readAll {δ : Type} (switches : List (Switch δ)) (blank : δ) (words : List String) :
    Except Stop δ := do
  match ← readSwitches false switches blank words with
  | (draft, []) => return draft
  | (_, word :: _) => throw (.misuse (.unexpectedWord word))

end RaceFarm.CommandLine
