import RaceFarm.Json.Skip

namespace RaceFarm.Json

/-- The fault of a value that is not of the expected kind. A scalar is read to its end first, so
    that text which is no JSON at all is reported as such. -/
def mismatch (expected : String) (text : List Char) : Fault :=
  let found := fun found => Fault.data (.invalidType found expected)
  let word := fun (rest : Except Fault (List Char)) (value : Found) =>
    match rest with
    | .ok _ => found value
    | .error fault => fault
  let numeral := fun (read : Except Fault (Number × List Char)) =>
    match read with
    | .ok (.whole value, _) => found (.whole value)
    | .ok (.real value, _) => found (.real value)
    | .error fault => fault
  match text with
  | [] => .truncated
  | 'n' :: rest => word (expectWord "ull".toList rest) .null
  | 't' :: rest => word (expectWord "rue".toList rest) (.bool true)
  | 'f' :: rest => word (expectWord "alse".toList rest) (.bool false)
  | '-' :: rest => numeral (number true rest)
  | '"' :: rest =>
    match string rest with
    | .ok (value, _) => found (.str value)
    | .error fault => fault
  | '[' :: _ => found .list
  | '\x7b' :: _ => found .object
  | c :: rest => if c.isDigit then numeral (number false (c :: rest)) else .malformed

def readString : Reader String := fun text =>
  match skipSpace text with
  | '"' :: rest => string rest
  | rest => .error (mismatch "a string" rest)

/-- A whole number stands for the nearest double. -/
def Number.toBinary64 : Number → Binary64
  | .whole value =>
    let magnitude := Binary64.ofNat value.natAbs
    if value < 0 then -magnitude else magnitude
  | .real value => value

def readReal : Reader Binary64 := fun text =>
  match skipSpace text with
  | '-' :: rest => do
    let (value, rest) ← number true rest
    return (value.toBinary64, rest)
  | c :: rest =>
    if c.isDigit then do
      let (value, rest) ← number false (c :: rest)
      return (value.toBinary64, rest)
    else .error (mismatch "f64" (c :: rest))
  | [] => .error .truncated

/-- Whether a list goes on, and the text from its next item or its closing bracket on. -/
def nextItem (first : Bool) (text : List Char) : Except Fault (Bool × List Char) :=
  match skipSpace text with
  | [] => .error .truncated
  | ']' :: rest => .ok (false, ']' :: rest)
  | c :: rest =>
    if first then .ok (true, c :: rest)
    else if c = ',' then
      match skipSpace rest with
      | [] => .error .truncated
      | ']' :: _ => .error .malformed
      | rest => .ok (true, rest)
    else .error .malformed

/-- The closing bracket of a list all of whose items have been read. -/
def closeList (text : List Char) : Except Fault (List Char) :=
  match skipSpace text with
  | ']' :: rest => .ok rest
  | [] => .error .truncated
  | _ => .error .malformed

/-- The next key of an object, or `none` at its closing brace. -/
def nextKey (first : Bool) (text : List Char) : Except Fault (Option String × List Char) :=
  let key := fun (text : List Char) => do
    let (name, rest) ← string text
    return (some name, rest)
  match skipSpace text with
  | [] => .error .truncated
  | '\x7d' :: rest => .ok (none, rest)
  | c :: rest =>
    if first then if c = '"' then key rest else .error .malformed
    else if c = ',' then
      match skipSpace rest with
      | [] => .error .truncated
      | '"' :: rest => key rest
      | _ => .error .malformed
    else .error .malformed

def readItems {α : Type} (item : Reader α) : Nat → Bool → Reader (List α)
  | 0, _, _ => .error .truncated
  | fuel + 1, first, text => do
    let (more, rest) ← nextItem first text
    if more then
      let (value, rest) ← item rest
      let (values, rest) ← readItems item fuel false rest
      return (value :: values, rest)
    else
      let rest ← closeList rest
      return ([], rest)

def readList {α : Type} (item : Reader α) : Reader (List α) := fun text =>
  match skipSpace text with
  | [] => .error .truncated
  | '[' :: rest => readItems item (rest.length + 1) true rest
  | rest => .error (mismatch "a sequence" rest)

def readEntries {α : Type} (value : Reader α) : Nat → Bool → KeyTable α → Reader (KeyTable α)
  | 0, _, _, _ => .error .truncated
  | fuel + 1, first, table, text => do
    match ← nextKey first text with
    | (none, rest) => return (table, rest)
    | (some key, rest) =>
      let rest ← colon rest
      let (item, rest) ← value rest
      readEntries value fuel false (table.insert key item) rest

/-- An object with free keys; a key that occurs again replaces its older value. -/
def readTable {α : Type} (value : Reader α) : Reader (KeyTable α) := fun text =>
  match skipSpace text with
  | [] => .error .truncated
  | '\x7b' :: rest => readEntries value (rest.length + 1) true .empty rest
  | rest => .error (mismatch "a map" rest)

/-- The value that a name stands for. -/
def named {α : Type} (known : List (String × α)) (name : String) : Except Fault α :=
  match known.lookup name with
  | some value => .ok value
  | none => .error (.data (.unknownVariant name (known.map (·.1))))

/-- One of several names, written as a string or as the only key of an object whose value is
    null. -/
def readChoice {α : Type} (known : List (String × α)) : Reader α := fun text =>
  match skipSpace text with
  | [] => .error .truncated
  | '"' :: rest => do
    let (name, rest) ← string rest
    return (← named known name, rest)
  | '\x7b' :: rest =>
    match skipSpace rest with
    | '"' :: rest => do
      let (name, rest) ← string rest
      let value ← named known name
      let rest := skipSpace (← colon rest)
      match rest with
      | 'n' :: rest =>
        match skipSpace (← expectWord "ull".toList rest) with
        | '\x7d' :: rest => return (value, rest)
        | [] => throw .truncated
        | _ => throw .malformed
      | rest => throw (mismatch "unit" rest)
    | [] => .error .truncated
    | _ => .error .malformed
  | _ => .error .malformed

/-- A member of a record that is read into a draft of it. -/
structure Field (δ : Type) where
  name : String
  /-- May be absent at the end of a list. -/
  optional : Bool
  filled : δ → Bool
  read : δ → Reader δ

/-- How a record is read from an object, or from a list of its fields in order. -/
structure Shape (δ α : Type) where
  name : String
  /-- Refuses members that are no field; otherwise they are skipped. -/
  closed : Bool
  fields : List (Field δ)
  blank : δ
  /-- Fills in defaults, or names the first required field that is absent. -/
  finish : δ → Except Problem α

namespace Shape

variable {δ α : Type} (shape : Shape δ α)

def readMembers : Nat → Bool → δ → Reader δ
  | 0, _, _, _ => .error .truncated
  | fuel + 1, first, draft, text => do
    match ← nextKey first text with
    | (none, rest) => return (draft, rest)
    | (some key, rest) =>
      match shape.fields.find? (·.name == key) with
      | none =>
        if shape.closed then
          throw (.data (.unknownField key (shape.fields.map (·.name))))
        else
          let rest ← skipValue (← colon rest)
          readMembers fuel false draft rest
      | some field =>
        if field.filled draft then throw (.data (.duplicateField key))
        let (draft, rest) ← field.read draft (← colon rest)
        readMembers fuel false draft rest

/-- The fields from position `index` on. -/
def readPositions : List (Field δ) → Nat → δ → Reader δ
  | [], _, draft, text => .ok (draft, text)
  | field :: fields, index, draft, text => do
    let (more, rest) ← nextItem (index == 0) text
    if more then
      let (draft, rest) ← field.read draft rest
      readPositions fields (index + 1) draft rest
    else
      match (field :: fields).findIdx? (!·.optional) with
      | none => return (draft, rest)
      | some missing =>
        throw (.data (.invalidLength (index + missing)
          ("struct " ++ shape.name ++ " with " ++ toString shape.fields.length ++ " elements")))

def complete (draft : δ) : Except Fault α :=
  (shape.finish draft).mapError .data

def read : Reader α := fun text =>
  match skipSpace text with
  | [] => .error .truncated
  | '\x7b' :: rest => do
    let (draft, rest) ← shape.readMembers (rest.length + 1) true shape.blank rest
    return (← shape.complete draft, rest)
  | '[' :: rest => do
    let (draft, rest) ← shape.readPositions shape.fields 0 shape.blank rest
    let value ← shape.complete draft
    return (value, ← closeList rest)
  | rest => .error (mismatch ("struct " ++ shape.name) rest)

end Shape

/-- A required field, once everything has been read. -/
def require {α : Type} (name : String) : Option α → Except Problem α
  | some value => .ok value
  | none => .error (.missingField name)

/-- Reads a text that holds one value and nothing else. -/
def decode {α : Type} (read : Reader α) (text : String) : Except Fault α := do
  let (value, rest) ← read text.toList
  if skipSpace rest = [] then return value else throw .malformed

end RaceFarm.Json
