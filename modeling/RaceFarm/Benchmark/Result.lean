import RaceFarm.Binary64.Layout
import RaceFarm.Binary64.Numeral
import RaceFarm.Text.Blank
import RaceFarm.Text.Cut

namespace RaceFarm

structure PerfResult where
  graph : String
  trace : String
  value : Binary64
  units : String
  /-- Shown in the step's summary. -/
  important : Bool
deriving DecidableEq

inductive LogLine where
  | result (result : PerfResult)
  /-- Announces a result that cannot be read; the line without blanks around it. -/
  | malformed (text : String)
  | other
deriving DecidableEq

def LogLine.result? : LogLine → Option PerfResult
  | result r => some r
  | _ => none

def LogLine.malformed? : LogLine → Option String
  | malformed text => some text
  | _ => none

namespace PerfResult

/-- Name under which expectations are declared. -/
def key (r : PerfResult) : String := r.graph ++ "/" ++ r.trace

/-- Values in a summary are positional throughout, and whole ones show no point. -/
def valueLayout : Binary64.Layout where
  tie := .up
  positional := none
  wholeEnd := []

def valueText (r : PerfResult) : String := String.ofList (valueLayout.write r.value)

def summary (r : PerfResult) : String :=
  String.ofList (Text.trimEnd (r.key ++ ": " ++ r.valueText ++ " " ++ r.units).toList)

/-- A numeral with blanks around it. Infinity and NaN cannot be compared and are refused. -/
def finite (text : List Char) : Option Binary64 :=
  (Binary64.ofNumeral (Text.trim text)).filter Binary64.isFinite

/-- The sum is rounded at each term, from the left, and may leave the finite range. -/
def mean (list : List Char) : Option Binary64 := do
  let values ← (list.splitOn ',').mapM finite
  return values.foldl (· + ·) (Binary64.zero true) / Binary64.ofNat values.length

/-- The value at the front of a text and the units after it: a list in brackets stands for its
    mean, a pair in braces is a mean with its deviation, all else is a single numeral. -/
def readValue : List Char → Option (Binary64 × List Char)
  | [] => none
  | '[' :: rest => do
    let (list, units) ← Text.cutAt ']' rest
    return (← mean list, units)
  | '\x7b' :: rest => do
    let (pair, units) ← Text.cutAt '\x7d' rest
    let (average, _) ← Text.cutAt ',' pair
    return (← finite average, units)
  | text => do
    let (value, units) := (Text.cut Text.isBlank text).getD (text, [])
    return (← finite value, units)

/-- What follows the mark of a result line. -/
def readBody (important : Bool) (text : List Char) : Option PerfResult := do
  let (graph, rest) ← Text.cutAt ':' text
  let (trace, rest) ← Text.cutAt '=' rest
  let graph := Text.trim graph
  let trace := Text.trim trace
  guard (graph ≠ [] ∧ trace ≠ [])
  let (value, units) ← readValue (Text.trim rest)
  return {
    graph := String.ofList graph
    trace := String.ofList trace
    value
    units := String.ofList (Text.trim units)
    important }

end PerfResult

/-- A result line is marked `RESULT`, after a star if the result is important. -/
def LogLine.ofChars (line : List Char) : LogLine :=
  let line := Text.trim line
  let (important, rest) :=
    match line with
    | '*' :: rest => (true, rest)
    | _ => (false, line)
  match Text.after "RESULT ".toList rest with
  | none => .other
  | some body =>
    match PerfResult.readBody important body with
    | some r => .result r
    | none => .malformed (String.ofList line)

end RaceFarm
