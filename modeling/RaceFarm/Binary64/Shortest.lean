import RaceFarm.Binary64.Basic

namespace RaceFarm.Binary64

/-- `digits * 10 ^ exponent`. -/
structure Decimal where
  digits : Nat
  exponent : Int
deriving DecidableEq

/-- Which neighbour is taken by a value that lies halfway between two decimals. -/
inductive Tie where
  | even
  | up
deriving DecidableEq

/-- Quarters of a least unit between consecutive multiples of `10 ^ exponent`, as a quotient. -/
def spacing (exponent : Int) : Nat × Nat :=
  (Nat.pow 10 exponent.toNat * (4 * unit), Nat.pow 10 (-exponent).toNat)

/-- Quarters of a least unit around a double: every real strictly between `low` and `high` rounds
    to it, and the ends do too if its significand is even. Below a power of two the gap is
    half as wide. -/
structure Basin where
  low : Nat
  value : Nat
  high : Nat
  closed : Bool

def basin (ordinal : Nat) : Basin :=
  let gap := Nat.pow 2 (scale ordinal)
  let value := 4 * units ordinal
  { low := value - (if ordinal % binade = 0 ∧ 0 < scale ordinal then gap else 2 * gap)
    value
    high := value + 2 * gap
    closed := ordinal % 2 = 0 }

/-- Whether `num / den` quarters lie in the basin. -/
def Basin.holds (b : Basin) (num den : Nat) : Bool :=
  if b.closed then b.low * den ≤ num && num ≤ b.high * den
  else b.low * den < num && num < b.high * den

/-- The multiple of `10 ^ exponent` nearest to the double among those that read back as it. -/
def gridPoint (tie : Tie) (b : Basin) (exponent : Int) : Option Nat :=
  let (num, den) := spacing exponent
  let below := b.value * den / num
  let above := below + 1
  match b.holds (below * num) den, b.holds (above * num) den with
  | false, false => none
  | true, false => some below
  | false, true => some above
  | true, true =>
    let toBelow := b.value * den - below * num
    let toAbove := above * num - b.value * den
    if toBelow < toAbove then some below
    else if toAbove < toBelow then some above
    else if tie = .even ∧ below % 2 = 0 then some below
    else some above

/-- Decimal exponents from above the greatest double down to below the least. -/
def exponents : List Int :=
  (List.range 634).map fun (n : Nat) => 309 - (n : Int)

/-- The fewest digits that read back as the double: the nearest point of the coarsest decimal grid
    that has a point in the basin. -/
def shortest (tie : Tie) (ordinal : Nat) : Decimal :=
  let b := basin ordinal
  (exponents.findSome? fun exponent =>
    (gridPoint tie b exponent).map fun digits => ⟨digits, exponent⟩).getD ⟨0, 0⟩

end RaceFarm.Binary64
