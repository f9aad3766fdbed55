import RaceFarm.Json.Decode

namespace RaceFarm

inductive Deviation where
  | regress
  | improve
deriving DecidableEq

/-- The expected range of a trace, from the bound of improvement to the bound of regression. -/
structure Expectation where
  improve : Binary64
  regress : Binary64
deriving DecidableEq

namespace Expectation

/-- Lower values are better unless the bound of regression lies below that of improvement. -/
def lowerIsBetter (e : Expectation) : Prop := e.improve ≤ e.regress

instance (e : Expectation) : Decidable e.lowerIsBetter :=
  inferInstanceAs (Decidable (e.improve ≤ e.regress))

/-- A value on a bound is still expected. One beyond both counts as a regression. -/
def check (e : Expectation) (value : Binary64) : Option Deviation :=
  if e.lowerIsBetter then
    if e.regress < value then some .regress
    else if value < e.improve then some .improve
    else none
  else
    if value < e.regress then some .regress
    else if e.improve < value then some .improve
    else none

def toJson (e : Expectation) : Json :=
  .object [("improve", .real e.improve), ("regress", .real e.regress)]

structure Draft where
  improve : Option Binary64
  regress : Option Binary64

def shape : Json.Shape Draft Expectation where
  name := "Expectation"
  closed := false
  blank := ⟨none, none⟩
  fields := [
    { name := "improve"
      optional := false
      filled := (·.improve.isSome)
      read := fun draft text => do
        let (value, rest) ← Json.readReal text
        return ({ draft with improve := some value }, rest) },
    { name := "regress"
      optional := false
      filled := (·.regress.isSome)
      read := fun draft text => do
        let (value, rest) ← Json.readReal text
        return ({ draft with regress := some value }, rest) }]
  finish := fun draft => do
    return {
      improve := ← Json.require "improve" draft.improve
      regress := ← Json.require "regress" draft.regress }

def reader : Json.Reader Expectation := shape.read

end Expectation

end RaceFarm
