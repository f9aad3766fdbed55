namespace RaceFarm

/-- How many nonnegative doubles share an exponent: `2 ^ 52`. -/
def Binary64.binade : Nat := 0x10000000000000

/-- How many nonnegative finite doubles there are. -/
def Binary64.finiteCount : Nat := 2047 * Binary64.binade

/-- An IEEE 754 double. A finite one is its sign and its place among the nonnegative finite
    doubles in ascending order, which is its bit pattern without the sign. -/
inductive Binary64 where
  | finite (negative : Bool) (ordinal : Fin Binary64.finiteCount)
  | infinite (negative : Bool)
  | nan
deriving DecidableEq

namespace Binary64

def significand (ordinal : Nat) : Nat :=
  if ordinal < binade then ordinal else binade + ordinal % binade

/-- The significand counts steps of `2 ^ scale` least units. -/
def scale (ordinal : Nat) : Nat := ordinal / binade - 1

/-- The magnitude as a multiple of the least positive double, `2 ^ -1074`. -/
def units (ordinal : Nat) : Nat := significand ordinal * Nat.pow 2 (scale ordinal)

/-- Least units in one. -/
def unit : Nat := Nat.pow 2 1074

/-- The nearest integer to a quotient; a half goes to the even neighbour. -/
def divHalfEven (num den : Nat) : Nat :=
  if 2 * (num % den) < den ∨ (2 * (num % den) = den ∧ num / den % 2 = 0) then num / den
  else num / den + 1

/-- Ordinal of the double nearest to `num / den` least units, as if exponents had no upper end. -/
def nearest (num den : Nat) : Nat :=
  let scale := (num / den).log2 - 52
  scale * binade + divHalfEven num (den * Nat.pow 2 scale)

/-- The double nearest to `num / den` least units. -/
def ofUnits (negative : Bool) (num den : Nat) : Binary64 :=
  if h : nearest num den < finiteCount then .finite negative ⟨nearest num den, h⟩
  else .infinite negative

def zero (negative : Bool) : Binary64 := .finite negative ⟨0, by decide⟩

def ofNat (n : Nat) : Binary64 := ofUnits false (n * unit) 1

/-- The double nearest to `± digits * 10 ^ exponent`. Beyond the two outer bounds the answer no
    longer depends on the digits, and the power is not formed. -/
def ofDecimal (negative : Bool) (digits : Nat) (exponent : Int) : Binary64 :=
  if digits = 0 then zero negative
  else if 400 < exponent then .infinite negative
  else if exponent < -(400 + digits.log2 : Int) then zero negative
  else ofUnits negative (digits * Nat.pow 10 exponent.toNat * unit) (Nat.pow 10 (-exponent).toNat)

def isFinite : Binary64 → Bool
  | .finite .. => true
  | _ => false

def isZero : Binary64 → Bool
  | .finite _ ordinal => ordinal.val == 0
  | _ => false

/-- Position on the number line; the two zeros share one. -/
def rank : Binary64 → Option Int
  | .finite negative ordinal => some (if negative then -(ordinal.val : Int) else ordinal.val)
  | .infinite negative => some (if negative then -(finiteCount : Int) else finiteCount)
  | .nan => none

/-- A NaN stands in no order to anything. -/
def lt (x y : Binary64) : Prop :=
  match x.rank, y.rank with
  | some a, some b => a < b
  | _, _ => False

def le (x y : Binary64) : Prop :=
  match x.rank, y.rank with
  | some a, some b => a ≤ b
  | _, _ => False

instance : LT Binary64 := ⟨lt⟩

instance : LE Binary64 := ⟨le⟩

instance (x y : Binary64) : Decidable (x < y) := by
  change Decidable (lt x y)
  unfold lt
  split <;> infer_instance

instance (x y : Binary64) : Decidable (x ≤ y) := by
  change Decidable (le x y)
  unfold le
  split <;> infer_instance

def signedUnits (negative : Bool) (ordinal : Nat) : Int :=
  if negative then -(units ordinal : Int) else units ordinal

/-- The sum rounded once. An exact zero is negative only if both terms are. -/
def add : Binary64 → Binary64 → Binary64
  | .finite a x, .finite b y =>
    let sum := signedUnits a x + signedUnits b y
    if sum = 0 then zero (a && b) else ofUnits (sum < 0) sum.natAbs 1
  | .infinite a, .infinite b => if a = b then .infinite a else .nan
  | .infinite a, .finite .. => .infinite a
  | .finite .., .infinite b => .infinite b
  | .nan, _ => .nan
  | _, .nan => .nan

def mul : Binary64 → Binary64 → Binary64
  | .finite a x, .finite b y => ofUnits (a != b) (units x * units y) unit
  | .finite a x, .infinite b => if x.val = 0 then .nan else .infinite (a != b)
  | .infinite a, .finite b y => if y.val = 0 then .nan else .infinite (a != b)
  | .infinite a, .infinite b => .infinite (a != b)
  | .nan, _ => .nan
  | _, .nan => .nan

def div : Binary64 → Binary64 → Binary64
  | .finite a x, .finite b y =>
    if y.val = 0 then if x.val = 0 then .nan else .infinite (a != b)
    else ofUnits (a != b) (units x * unit) (units y)
  | .infinite a, .finite b _ => .infinite (a != b)
  | .finite a _, .infinite b => zero (a != b)
  | .infinite _, .infinite _ => .nan
  | .nan, _ => .nan
  | _, .nan => .nan

instance : Add Binary64 := ⟨add⟩

instance : Mul Binary64 := ⟨mul⟩

instance : Div Binary64 := ⟨div⟩

def negate : Binary64 → Binary64
  | .finite negative ordinal => .finite (!negative) ordinal
  | .infinite negative => .infinite (!negative)
  | .nan => .nan

instance : Neg Binary64 := ⟨negate⟩

end Binary64

end RaceFarm
