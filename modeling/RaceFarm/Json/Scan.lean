import RaceFarm.Binary64.Numeral
import RaceFarm.Json.Fault

namespace RaceFarm.Json

/-- Reads a value off the front of a text and returns what is left of it. -/
abbrev Reader (α : Type) := List Char → Except Fault (α × List Char)

def isSpace (c : Char) : Bool := c == ' ' || c == '\n' || c == '\t' || c == '\r'

def skipSpace (text : List Char) : List Char := text.dropWhile isSpace

/-- The rest of a word that must stand here. -/
def expectWord : List Char → List Char → Except Fault (List Char)
  | [], text => .ok text
  | _ :: _, [] => .error .truncated
  | w :: word, c :: text => if c = w then expectWord word text else .error .malformed

def hexValue (c : Char) : Option Nat :=
  if c.isDigit then some (c.toNat - '0'.toNat)
  else if 'a' ≤ c ∧ c ≤ 'f' then some (c.toNat - 'a'.toNat + 10)
  else if 'A' ≤ c ∧ c ≤ 'F' then some (c.toNat - 'A'.toNat + 10)
  else none

/-- Four hexadecimal digits. The text counts as ended when fewer than four bytes are left. -/
def hexQuad : Reader Nat := fun text =>
  if (String.ofList (text.take 4)).utf8ByteSize < 4 then .error .truncated
  else
    match text with
    | a :: b :: c :: d :: rest =>
      match hexValue a, hexValue b, hexValue c, hexValue d with
      | some a, some b, some c, some d => .ok (((a * 16 + b) * 16 + c) * 16 + d, rest)
      | _, _, _, _ => .error .malformed
    | _ => .error .malformed

/-- The character of a `\u` escape; one beyond 16 bits is written as two escapes. -/
def unicodeEscape : Reader Char := fun text => do
  let (high, rest) ← hexQuad text
  if 0xDC00 ≤ high ∧ high ≤ 0xDFFF then throw .malformed
  if high < 0xD800 ∨ 0xDBFF < high then return (Char.ofNat high, rest)
  match rest with
  | [] => throw .truncated
  | ['\\'] => throw .truncated
  | '\\' :: 'u' :: rest =>
    let (low, rest) ← hexQuad rest
    if low < 0xDC00 ∨ 0xDFFF < low then throw .malformed
    return (Char.ofNat (0x10000 + (high - 0xD800) * 0x400 + (low - 0xDC00)), rest)
  | _ => throw .malformed

/-- The escapes of one letter. -/
def shortEscape : Char → Option Char
  | '"' => some '"'
  | '\\' => some '\\'
  | '/' => some '/'
  | 'b' => some '\x08'
  | 'f' => some '\x0c'
  | 'n' => some '\n'
  | 'r' => some '\r'
  | 't' => some '\t'
  | _ => none

/-- What follows a backslash. -/
def escape : Reader Char
  | [] => .error .truncated
  | c :: rest =>
    if c = 'u' then unicodeEscape rest
    else
      match shortEscape c with
      | some d => .ok (d, rest)
      | none => .error .malformed

/-- A string after its opening quote. Every round takes at least one character, so `fuel` need
    only exceed the length of the text. -/
def stringBody : Nat → Reader (List Char)
  | 0, _ => .error .truncated
  | _, [] => .error .truncated
  | fuel + 1, c :: rest =>
    if c = '"' then .ok ([], rest)
    else if c = '\\' then do
      let (d, rest) ← escape rest
      let (body, rest) ← stringBody fuel rest
      return (d :: body, rest)
    else if c.toNat < 0x20 then .error .malformed
    else do
      let (body, rest) ← stringBody fuel rest
      return (c :: body, rest)

def string : Reader String := fun text => do
  let (body, rest) ← stringBody (text.length + 1) text
  return (String.ofList body, rest)

/-- A number as it was written: a whole one stays exact while it fits in 64 bits. -/
inductive Number where
  | whole (value : Int)
  | real (value : Binary64)

/-- Appends digits to a significand while it fits in 64 bits, and counts those it took. -/
def gather (significand : Nat) : List Char → Nat × Nat
  | [] => (significand, 0)
  | d :: digits =>
    let next := 10 * significand + (d.toNat - '0'.toNat)
    if next < 0x10000000000000000 then
      let (final, taken) := gather next digits
      (final, taken + 1)
    else (significand, 0)

def tenPower (n : Nat) : Binary64 := Binary64.ofDecimal false 1 n

/-- `x / 10 ^ n`, in steps of at most 308 that are rounded one by one. -/
def shrink (x : Binary64) (n : Nat) : Binary64 :=
  if n ≤ 308 then x / tenPower n
  else if x.isZero then x
  else shrink (x / tenPower 308) (n - 308)
termination_by n
decreasing_by omega

/-- `± significand * 10 ^ exponent`. The significand is rounded first and scaled then, so the result
    can miss the nearest double; one beyond the greatest double is refused. -/
def scaled (negative : Bool) (significand : Nat) (exponent : Int) : Except Fault Binary64 :=
  let start := Binary64.ofNat significand
  let sign := fun x : Binary64 => if negative then -x else x
  if exponent < 0 then .ok (sign (shrink start (-exponent).toNat))
  else if significand = 0 then .ok (sign start)
  else if 308 < exponent then .error .malformed
  else
    let x := start * tenPower exponent.toNat
    if x.isFinite then .ok (sign x) else .error .malformed

/-- An exponent after its mark: a sign and at least one digit. -/
def exponentPart : Reader Int := fun text =>
  let (negative, text) := Binary64.takeSign text
  let digits := text.takeWhile Char.isDigit
  let rest := text.dropWhile Char.isDigit
  if digits = [] then .error (if rest = [] then .truncated else .malformed)
  else .ok (if negative then -(Binary64.ofDigits digits : Int) else Binary64.ofDigits digits, rest)

/-- A number from its first digit on. -/
def number (negative : Bool) : Reader Number
  | [] => .error .truncated
  | c :: text => do
    unless c.isDigit do throw .malformed
    let digits := c :: text.takeWhile Char.isDigit
    let rest := text.dropWhile Char.isDigit
    if c = '0' ∧ 1 < digits.length then throw .malformed
    let (significand, taken) := gather 0 digits
    let beyond : Int := digits.length - taken
    let (significand, exponent, fractional, rest) ←
      match rest with
      | '.' :: rest => do
        let digits := rest.takeWhile Char.isDigit
        let rest := rest.dropWhile Char.isDigit
        if digits = [] then throw (if rest = [] then Fault.truncated else .malformed)
        let (significand, taken) := gather significand digits
        pure (significand, beyond - taken, true, rest)
      | _ => pure (significand, beyond, false, rest)
    let (exponent, marked, rest) ←
      match rest with
      | 'e' :: rest | 'E' :: rest => do
        let (shift, rest) ← exponentPart rest
        pure (exponent + shift, true, rest)
      | _ => pure (exponent, false, rest)
    if fractional ∨ marked ∨ beyond ≠ 0 then
      return (.real (← scaled negative significand exponent), rest)
    else if ¬negative then return (.whole significand, rest)
    else if 0 < significand ∧ significand ≤ 0x8000000000000000 then
      return (.whole (-significand), rest)
    else return (.real (-(Binary64.ofNat significand)), rest)

end RaceFarm.Json
