import RaceFarm.Binary64.Layout
import RaceFarm.KeyTable

namespace RaceFarm

/-- A JSON value; the members of an object keep their order. -/
inductive Json where
  | null
  | bool (value : Bool)
  | whole (value : Int)
  | real (value : Binary64)
  | str (value : String)
  | list (items : List Json)
  | object (members : List (String × Json))

namespace Json

/-- Numbers are positional from 0.00001 up to 16 digits before the point, and show by a fractional
    part or an exponent that they are not whole. -/
def numberLayout : Binary64.Layout where
  tie := .even
  positional := some (-5, 15)
  wholeEnd := ['.', '0']

/-- The text of a double; one that is not finite has none and is written as null. -/
def realText (x : Binary64) : List Char :=
  if x.isFinite then numberLayout.write x else "null".toList

def wholeText (n : Int) : List Char :=
  if n < 0 then '-' :: Nat.toDigits 10 n.natAbs else Nat.toDigits 10 n.natAbs

def escapedChar (c : Char) : List Char :=
  match c with
  | '"' => ['\\', '"']
  | '\\' => ['\\', '\\']
  | '\n' => ['\\', 'n']
  | '\r' => ['\\', 'r']
  | '\t' => ['\\', 't']
  | '\x08' => ['\\', 'b']
  | '\x0c' => ['\\', 'f']
  | c =>
    if c.toNat < 0x20 then
      '\\' :: 'u' :: '0' :: '0' :: Nat.digitChar (c.toNat / 16) :: [Nat.digitChar (c.toNat % 16)]
    else [c]

def stringText (s : String) : List Char :=
  '"' :: s.toList.flatMap escapedChar ++ ['"']

mutual

/-- The text without any blanks. -/
def compactChars : Json → List Char
  | .null => "null".toList
  | .bool value => if value then "true".toList else "false".toList
  | .whole value => wholeText value
  | .real value => realText value
  | .str value => stringText value
  | .list [] => ['[', ']']
  | .list (item :: items) => '[' :: compactChars item ++ compactItems items
  | .object [] => ['\x7b', '\x7d']
  | .object ((key, value) :: members) =>
    '\x7b' :: stringText key ++ ':' :: compactChars value ++ compactMembers members

/-- The items after the first, and the closing bracket. -/
def compactItems : List Json → List Char
  | [] => [']']
  | item :: items => ',' :: compactChars item ++ compactItems items

def compactMembers : List (String × Json) → List Char
  | [] => ['\x7d']
  | (key, value) :: members =>
    ',' :: stringText key ++ ':' :: compactChars value ++ compactMembers members

end

def compact (value : Json) : String := String.ofList value.compactChars

/-- A line break and two blanks for each level. -/
def newLine (level : Nat) : List Char :=
  '\n' :: List.replicate (2 * level) ' '

mutual

/-- The text with each item and member on a line of its own. -/
def indentedChars (level : Nat) : Json → List Char
  | .null => "null".toList
  | .bool value => if value then "true".toList else "false".toList
  | .whole value => wholeText value
  | .real value => realText value
  | .str value => stringText value
  | .list [] => ['[', ']']
  | .list (item :: items) =>
    '[' :: newLine (level + 1) ++ indentedChars (level + 1) item ++ indentedItems level items
  | .object [] => ['\x7b', '\x7d']
  | .object ((key, value) :: members) =>
    '\x7b' :: newLine (level + 1) ++ stringText key ++ ':' :: ' ' ::
      indentedChars (level + 1) value ++ indentedMembers level members

def indentedItems (level : Nat) : List Json → List Char
  | [] => newLine level ++ [']']
  | item :: items =>
    ',' :: newLine (level + 1) ++ indentedChars (level + 1) item ++ indentedItems level items

def indentedMembers (level : Nat) : List (String × Json) → List Char
  | [] => newLine level ++ ['\x7d']
  | (key, value) :: members =>
    ',' :: newLine (level + 1) ++ stringText key ++ ':' :: ' ' ::
      indentedChars (level + 1) value ++ indentedMembers level members

end

def indented (value : Json) : String := String.ofList (value.indentedChars 0)

def optional {α : Type} (write : α → Json) : Option α → Json
  | some value => write value
  | none => .null

def texts (items : List String) : Json := .list (items.map .str)

/-- A table as an object with its keys in order. -/
def table {α : Type} (write : α → Json) (t : KeyTable α) : Json :=
  .object (t.entries.map fun (key, value) => (key, write value))

end Json

end RaceFarm
