import RaceFarm.Json.Scan

namespace RaceFarm.Json

/-- A number that nobody reads: only its form matters, not its size. -/
def skipNumber (text : List Char) : Except Fault (List Char) := do
  let digits := text.takeWhile Char.isDigit
  let rest := text.dropWhile Char.isDigit
  if digits = [] ∨ (digits.head? = some '0' ∧ 1 < digits.length) then throw .malformed
  let rest ←
    match rest with
    | '.' :: rest =>
      if (rest.takeWhile Char.isDigit).isEmpty then throw Fault.malformed
      else pure (rest.dropWhile Char.isDigit)
    | _ => pure rest
  match rest with
  | 'e' :: rest | 'E' :: rest =>
    let rest := (Binary64.takeSign rest).2
    if (rest.takeWhile Char.isDigit).isEmpty then throw .malformed
    else return rest.dropWhile Char.isDigit
  | _ => return rest

/-- A string that nobody reads, after its opening quote. Surrogates need not be paired. -/
def skipString : Nat → List Char → Except Fault (List Char)
  | 0, _ => .error .truncated
  | _, [] => .error .truncated
  | fuel + 1, c :: rest =>
    if c = '"' then .ok rest
    else if c = '\\' then
      match rest with
      | [] => .error .truncated
      | 'u' :: rest => do
        let (_, rest) ← hexQuad rest
        skipString fuel rest
      | d :: rest => if (shortEscape d).isSome then skipString fuel rest else .error .malformed
    else if c.toNat < 0x20 then .error .malformed
    else skipString fuel rest

def colon (text : List Char) : Except Fault (List Char) :=
  match skipSpace text with
  | ':' :: rest => .ok rest
  | [] => .error .truncated
  | _ => .error .malformed

mutual

/-- Skips one value of any kind and depth. An item or a member takes at least one character, so
    `fuel` need only exceed twice the length of the text. -/
def skipNested : Nat → List Char → Except Fault (List Char)
  | 0, _ => .error .truncated
  | fuel + 1, text =>
    match skipSpace text with
    | [] => .error .truncated
    | 'n' :: rest => expectWord "ull".toList rest
    | 't' :: rest => expectWord "rue".toList rest
    | 'f' :: rest => expectWord "alse".toList rest
    | '"' :: rest => skipString (rest.length + 1) rest
    | '-' :: rest => skipNumber rest
    | '[' :: rest =>
      match skipSpace rest with
      | ']' :: rest => .ok rest
      | rest => skipItems fuel rest
    | '\x7b' :: rest =>
      match skipSpace rest with
      | '\x7d' :: rest => .ok rest
      | rest => skipMembers fuel rest
    | c :: rest => if c.isDigit then skipNumber (c :: rest) else .error .malformed

def skipItems : Nat → List Char → Except Fault (List Char)
  | 0, _ => .error .truncated
  | fuel + 1, text => do
    let rest ← skipNested fuel text
    match skipSpace rest with
    | ',' :: rest => skipItems fuel rest
    | ']' :: rest => return rest
    | [] => throw .truncated
    | _ => throw .malformed

def skipMembers : Nat → List Char → Except Fault (List Char)
  | 0, _ => .error .truncated
  | fuel + 1, text =>
    match skipSpace text with
    | '"' :: rest => do
      let rest ← skipString (rest.length + 1) rest
      let rest ← colon rest
      let rest ← skipNested fuel rest
      match skipSpace rest with
      | ',' :: rest => skipMembers fuel rest
      | '\x7d' :: rest => return rest
      | [] => throw .truncated
      | _ => throw .malformed
    | [] => .error .truncated
    | _ => .error .malformed

end

def skipValue (text : List Char) : Except Fault (List Char) :=
  skipNested (2 * text.length + 2) text

end RaceFarm.Json
