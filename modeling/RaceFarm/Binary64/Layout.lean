import RaceFarm.Binary64.Shortest

namespace RaceFarm.Binary64

/-- How the shortest digits of a double are laid out as text. -/
structure Layout where
  tie : Tie
  /-- Exponents of the leading digit that are written positionally; all of them if absent. -/
  positional : Option (Int × Int)
  /-- Ends a number without a fractional part. -/
  wholeEnd : List Char

def zeros (count : Nat) : List Char := List.replicate count '0'

/-- Digits with the point after the leading one, and the exponent with its sign. -/
def scientific (digits : List Char) (leading : Int) : List Char :=
  let mantissa :=
    match digits with
    | first :: second :: rest => first :: '.' :: second :: rest
    | short => short
  let sign := if leading < 0 then '-' else '+'
  mantissa ++ 'e' :: sign :: Nat.toDigits 10 leading.natAbs

def positional (wholeEnd digits : List Char) (exponent leading : Int) : List Char :=
  if 0 ≤ exponent then digits ++ zeros exponent.toNat ++ wholeEnd
  else if 0 ≤ leading then
    digits.take (leading.toNat + 1) ++ '.' :: digits.drop (leading.toNat + 1)
  else '0' :: '.' :: zeros (-leading - 1).toNat ++ digits

namespace Layout

def decimal (layout : Layout) (d : Decimal) : List Char :=
  let digits := Nat.toDigits 10 d.digits
  let leading : Int := d.exponent + digits.length - 1
  let plain : Bool :=
    match layout.positional with
    | none => true
    | some (least, most) => least ≤ leading && leading ≤ most
  if plain then Binary64.positional layout.wholeEnd digits d.exponent leading
  else scientific digits leading

def magnitude (layout : Layout) (ordinal : Nat) : List Char :=
  if ordinal = 0 then '0' :: layout.wholeEnd
  else layout.decimal (shortest layout.tie ordinal)

def write (layout : Layout) : Binary64 → List Char
  | .finite negative ordinal =>
    if negative then '-' :: layout.magnitude ordinal else layout.magnitude ordinal
  | .infinite negative => if negative then "-inf".toList else "inf".toList
  | .nan => "NaN".toList

end Layout

end RaceFarm.Binary64
