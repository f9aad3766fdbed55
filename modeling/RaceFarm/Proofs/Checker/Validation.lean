import RaceFarm.Checker.RaceVerifier

namespace RaceFarm

/-- Flags of pin's tools are for pin alone, and the separator is for pin on windows. -/
def Frontend.Takes (f : Frontend) (token : String) : Prop :=
  (token ∈ ["--dbg", "--opt", "--mt"] → f = .pin) ∧ (token = "--" → f = .pinWin)

namespace CheckerConfig

theorem argError_eq_none_iff {frontend : Frontend} {arg : String} :
    argError frontend arg = none ↔ isModeFlag arg = false ∧ frontend.Takes arg := by
  unfold argError
  cases mode : isModeFlag arg with
  | true => simp
  | false =>
    simp only [Bool.false_eq_true, if_false, isPinFlag, List.contains_iff_mem, separator,
      Frontend.Takes, ite_eq_right_iff, reduceCtorEq, imp_false, not_or, not_and, ne_eq,
      Decidable.not_not, true_and]

theorem isForeignWrapper_eq_false_iff {frontend : Frontend} {wrapper : String} :
    isForeignWrapper frontend wrapper = false ↔
      ∀ other : Frontend, other ≠ frontend → wrapper ∉ other.wrappers := by
  have every : ∀ other : Frontend, other ∈ Frontend.all := by
    intro other
    cases other <;> decide
  simp [isForeignWrapper, every]

theorem validate_eq_ok_iff {c : CheckerConfig} :
    c.validate = .ok () ↔
      (∀ arg ∈ c.extraArgs ++ c.extraTestArgs, argError c.frontend arg = none) ∧
        ∀ wrapper, c.wrapper = some wrapper → isForeignWrapper c.frontend wrapper = false := by
  rw [← List.findSome?_eq_none_iff]
  unfold validate
  cases (c.extraArgs ++ c.extraTestArgs).findSome? (argError c.frontend) with
  | some error => simp
  | none =>
    cases c.wrapper with
    | none => simp
    | some wrapper => cases foreign : isForeignWrapper c.frontend wrapper <;> simp [foreign]

/-- Long options of the checker are told from mode flags, pin flags and the separator by their
    first letter. -/
theorem argError_of_letter {arg : String} (frontend : Frontend) (letter : Char) (rest : String)
    (spelled : arg.toList = '-' :: '-' :: letter :: rest.toList)
    (other : letter ∉ ['p', 'd', 'o', 'm']) :
    argError frontend arg = none := by
  simp only [List.mem_cons, List.not_mem_nil, or_false, not_or] at other
  obtain ⟨notMode, notDbg, notOpt, notMt⟩ := other
  have mode : isModeFlag arg = false := by
    simp [isModeFlag, Text.startsWith, spelled, List.isPrefixOf, Ne.symm notMode]
  have pin : isPinFlag arg = false := by
    simp only [isPinFlag, List.contains_cons, List.contains_nil, Bool.or_false,
      Bool.or_eq_false_iff, beq_eq_false_iff_ne]
    refine ⟨?_, ?_, ?_⟩
    all_goals
      rintro rfl
      simp at spelled
      obtain ⟨rfl, -⟩ := spelled
      contradiction
  have plain : arg ≠ separator := by
    rintro rfl
    simp [separator] at spelled
  simp [argError, mode, pin, plain]

theorem argError_exitcode (frontend : Frontend) :
    argError frontend "--error_exitcode=1" = none :=
  argError_of_letter frontend 'e' "rror_exitcode=1" rfl (by decide)

theorem invoke_eq_ok_iff {c : CheckerConfig} {binary : String} {i : Invocation} :
    c.invoke binary = .ok i ↔
      c.validate = .ok () ∧ i = { command := c.command binary, env := c.env, label := c.label } := by
  unfold invoke
  cases c.validate with
  | error error => simp [bind, Except.bind]
  | ok accepted => simp [bind, Except.bind, pure, Except.pure, eq_comm]

end CheckerConfig

namespace RaceVerifier

variable (v : RaceVerifier) (c : CheckerConfig)

theorem firstPass_argErrors (frontend : Frontend) :
    ((v.firstPass c).extraArgs ++ (v.firstPass c).extraTestArgs).findSome?
      (CheckerConfig.argError frontend) = CheckerConfig.argError frontend v.testFilter := by
  have expected : CheckerConfig.argError frontend "--show-expected-races" = none :=
    CheckerConfig.argError_of_letter frontend 's' "how-expected-races" rfl (by decide)
  simp [firstPass, expected, CheckerConfig.argError_exitcode]

theorem secondPass_argErrors (frontend : Frontend) :
    ((v.secondPass c).extraArgs ++ (v.secondPass c).extraTestArgs).findSome?
      (CheckerConfig.argError frontend) = CheckerConfig.argError frontend v.testFilter := by
  have log : CheckerConfig.argError frontend ("--race-verifier=" ++ v.logFile) = none :=
    CheckerConfig.argError_of_letter frontend 'r' ("ace-verifier=" ++ v.logFile)
      (by simp [String.toList_append]) (by decide)
  simp [secondPass, CheckerConfig.argError_exitcode, log]

theorem secondPass_validate : (v.secondPass c).validate = (v.firstPass c).validate := by
  unfold CheckerConfig.validate
  rw [firstPass_argErrors, secondPass_argErrors]
  rfl

end RaceVerifier

end RaceFarm
