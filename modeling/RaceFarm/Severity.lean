import RaceFarm.Json.Decode

namespace RaceFarm

/-- How bad a result is, from best to worst. -/
inductive Severity where
  | success
  | warnings
  | failure
deriving DecidableEq

namespace Severity

def name : Severity → String
  | success => "SUCCESS"
  | warnings => "WARNINGS"
  | failure => "FAILURE"

def exitCode : Severity → Nat
  | success => 0
  | warnings => 1
  | failure => 2

/-- A process succeeded if it exited with zero. -/
def ofExitCode (code : Int) : Severity :=
  if code = 0 then success else failure

def combine (a b : Severity) : Severity :=
  if a.exitCode ≤ b.exitCode then b else a

/-- The worst of all, or success. -/
def combineAll (list : List Severity) : Severity :=
  list.foldl combine success

theorem exitCode_inj {a b : Severity} (same : a.exitCode = b.exitCode) : a = b := by
  cases a <;> cases b <;> first | rfl | cases same

theorem combine_exitCode_le_iff (a b s : Severity) :
    (a.combine b).exitCode ≤ s.exitCode ↔ a.exitCode ≤ s.exitCode ∧ b.exitCode ≤ s.exitCode := by
  unfold combine
  split <;> omega

theorem foldl_combine_exitCode_le_iff (list : List Severity) (a s : Severity) :
    (list.foldl combine a).exitCode ≤ s.exitCode ↔
      a.exitCode ≤ s.exitCode ∧ ∀ b ∈ list, b.exitCode ≤ s.exitCode := by
  induction list generalizing a with
  | nil => simp
  | cons b list ih => simp [ih, combine_exitCode_le_iff, and_assoc]

/-- Nothing but the worst of all bounds a list from above as tightly. -/
theorem combineAll_exitCode_le_iff (list : List Severity) (s : Severity) :
    (combineAll list).exitCode ≤ s.exitCode ↔ ∀ b ∈ list, b.exitCode ≤ s.exitCode := by
  rw [combineAll, foldl_combine_exitCode_le_iff]
  exact ⟨And.right, fun above => ⟨Nat.zero_le _, above⟩⟩

def toJson (s : Severity) : Json := .str s.name

def reader : Json.Reader Severity :=
  Json.readChoice ([success, warnings, failure].map fun s => (s.name, s))

end Severity

end RaceFarm
