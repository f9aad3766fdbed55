import RaceFarm.Proofs.Checker.Validation

namespace RaceFarm

theorem Variant.binaryPath_head (v : Variant) (base : String) :
    (v.binaryPath base).toList.head? = some 'u' := by
  simp [binaryPath]

theorem Frontend.takes_of_undashed {f : Frontend} {token : String}
    (undashed : token.toList.head? ≠ some '-') : f.Takes token := by
  constructor
  · intro flag
    simp only [List.mem_cons, List.not_mem_nil, or_false] at flag
    rcases flag with rfl | rfl | rfl <;> exact absurd (by decide) undashed
  · rintro rfl
    exact absurd (by decide) undashed

namespace CheckerConfig

theorem isModeFlag_of_undashed {token : String} (undashed : token.toList.head? ≠ some '-') :
    isModeFlag token = false := by
  rw [Bool.eq_false_iff]
  intro mode
  obtain ⟨rest, spelled⟩ := List.isPrefixOf_iff_prefix.1 mode
  apply undashed
  rw [← spelled]
  rfl

variable (c : CheckerConfig) (binary : String)

/-- What the checker is told by the configuration itself. -/
def ownTokens : List String :=
  let known := [c.mode.flag, "--suppressions=unittest/racecheck_unittest.supp",
    "--ignore=unittest/racecheck_unittest.ignore"]
  match c.frontend with
  | .valgrind => known
  | .pin => (if c.debug then "--dbg" else "--opt") :: if c.threaded then "--mt" :: known else known
  | .pinWin => known ++ ["--"]

/-- Everything after the wrapper. -/
def tokens : List String :=
  c.extraArgs ++ c.ownTokens ++ binary :: c.extraTestArgs

theorem arguments_eq_tokens : c.arguments binary = c.tokens binary := by
  have own : c.flags = c.ownTokens := by
    unfold flags ownTokens
    cases c.frontend <;> cases c.debug <;> cases c.threaded <;> rfl
  rw [arguments, own, tokens, List.append_assoc, List.singleton_append]

theorem ownTokens_modeFlags : c.ownTokens.filter isModeFlag = [c.mode.flag] := by
  unfold ownTokens
  cases c.frontend <;> cases c.debug <;> cases c.threaded <;> cases c.mode <;> decide

theorem ownTokens_take : ∀ token ∈ c.ownTokens, c.frontend.Takes token := by
  unfold ownTokens Frontend.Takes
  cases c.frontend <;> cases c.debug <;> cases c.threaded <;> cases c.mode <;> decide

section Around

variable (lead rest : List String)

theorem around_modeFlags :
    (lead ++ (c.ownTokens ++ rest)).filter isModeFlag =
      lead.filter isModeFlag ++ c.mode.flag :: rest.filter isModeFlag := by
  rw [List.filter_append, List.filter_append, ownTokens_modeFlags, List.singleton_append]

theorem around_oneModeFlag_iff :
    (lead ++ (c.ownTokens ++ rest)).countP isModeFlag = 1 ↔
      ∀ token ∈ lead ++ rest, isModeFlag token = false := by
  have count : (lead ++ (c.ownTokens ++ rest)).countP isModeFlag =
      ((lead ++ rest).filter isModeFlag).length + 1 := by
    rw [List.countP_eq_length_filter, around_modeFlags, List.filter_append, List.length_append,
      List.length_append, List.length_cons, Nat.add_assoc]
  rw [count, Nat.add_eq_right, List.length_eq_zero_iff, List.filter_eq_nil_iff]
  simp only [Bool.not_eq_true]

theorem around_take_iff :
    (∀ token ∈ lead ++ (c.ownTokens ++ rest), c.frontend.Takes token) ↔
      ∀ token ∈ lead ++ rest, c.frontend.Takes token := by
  simp only [List.forall_mem_append]
  constructor
  · rintro ⟨first, -, last⟩
    exact ⟨first, last⟩
  · rintro ⟨first, last⟩
    exact ⟨first, c.ownTokens_take, last⟩

/-- Whatever surrounds the checker's own tokens, it is accepted token by token exactly if the whole
    gives one mode to a frontend that takes all of it. -/
theorem around_accepted_iff :
    (∀ token ∈ lead ++ rest, argError c.frontend token = none) ↔
      (lead ++ (c.ownTokens ++ rest)).countP isModeFlag = 1 ∧
        ∀ token ∈ lead ++ (c.ownTokens ++ rest), c.frontend.Takes token := by
  rw [around_oneModeFlag_iff, around_take_iff]
  simp only [argError_eq_none_iff]
  exact ⟨fun accepted => ⟨fun token given => (accepted token given).1,
    fun token given => (accepted token given).2⟩,
    fun ⟨modeless, taken⟩ token given => ⟨modeless token given, taken token given⟩⟩

end Around

theorem tokens_eq_around :
    c.tokens binary = c.extraArgs ++ (c.ownTokens ++ binary :: c.extraTestArgs) := by
  rw [tokens, List.append_assoc]

variable {binary} (undashed : binary.toList.head? ≠ some '-')

include undashed

theorem tokens_modeFlags :
    (c.tokens binary).filter isModeFlag =
      c.extraArgs.filter isModeFlag ++ c.mode.flag :: c.extraTestArgs.filter isModeFlag := by
  rw [tokens_eq_around, around_modeFlags,
    List.filter_cons_of_neg (by simp [isModeFlag_of_undashed undashed])]

theorem tokens_oneModeFlag_iff :
    (c.tokens binary).countP isModeFlag = 1 ↔
      c.extraArgs.filter isModeFlag = [] ∧ c.extraTestArgs.filter isModeFlag = [] := by
  rw [tokens_eq_around, around_oneModeFlag_iff, List.filter_eq_nil_iff, List.filter_eq_nil_iff]
  simp only [List.forall_mem_append, List.forall_mem_cons, isModeFlag_of_undashed undashed,
    true_and, Bool.not_eq_true]

theorem args_accepted_iff :
    (∀ arg ∈ c.extraArgs ++ c.extraTestArgs, argError c.frontend arg = none) ↔
      (c.tokens binary).countP isModeFlag = 1 ∧
        ∀ token ∈ c.tokens binary, c.frontend.Takes token := by
  have plain : argError c.frontend binary = none :=
    argError_eq_none_iff.2 ⟨isModeFlag_of_undashed undashed, Frontend.takes_of_undashed undashed⟩
  rw [tokens_eq_around, ← around_accepted_iff]
  simp only [List.forall_mem_append, List.forall_mem_cons, plain, true_and]

omit undashed

/-- A frontend takes all of the tokens, and is told one mode. -/
structure Proper (tokens : List String) : Prop where
  wrapper : ∀ wrapper, c.wrapper = some wrapper →
    ∀ other : Frontend, other ≠ c.frontend → wrapper ∉ other.wrappers
  mode : tokens.countP isModeFlag = 1
  pin : ∀ token ∈ tokens, token ∈ ["--dbg", "--opt", "--mt"] → c.frontend = .pin
  separator : "--" ∈ tokens → c.frontend = .pinWin

/-- The command runs the tokens under a wrapper that is the frontend's own or the caller's. -/
structure Launches (tokens : List String) (command : Command) (wrapper : String) : Prop where
  chosen : c.wrapper = some wrapper ∨
    c.wrapper = none ∧ wrapper = c.defaultWrapper ∧ wrapper ∈ c.frontend.wrappers
  native : ∀ other : Frontend, other ≠ c.frontend → wrapper ∉ other.wrappers
  spelled : command =
    match c.append with
    | none => .argv (c.launcher ++ [wrapper] ++ tokens)
    | some text => .shell (" ".intercalate (c.launcher ++ [wrapper] ++ tokens ++ [text]))
  mode : tokens.filter isModeFlag = [c.mode.flag]

theorem validate_eq_ok_iff_proper (undashed : binary.toList.head? ≠ some '-') :
    c.validate = .ok () ↔ c.Proper (c.tokens binary) := by
  rw [validate_eq_ok_iff, args_accepted_iff c undashed]
  simp only [isForeignWrapper_eq_false_iff]
  constructor
  · rintro ⟨⟨mode, taken⟩, wrapper⟩
    exact ⟨wrapper, mode, fun token given => (taken token given).1,
      fun given => (taken _ given).2 rfl⟩
  · intro proper
    refine ⟨⟨proper.mode, fun token given => ⟨proper.pin token given, ?_⟩⟩, proper.wrapper⟩
    rintro rfl
    exact proper.separator given

theorem defaultWrapper_mem : c.defaultWrapper ∈ c.frontend.wrappers := by
  unfold defaultWrapper
  cases c.frontend <;> cases c.debug <;> cases c.threaded <;> decide

theorem wrappers_disjoint {f other : Frontend} {wrapper : String} (differ : other ≠ f)
    (own : wrapper ∈ f.wrappers) : wrapper ∉ other.wrappers := by
  cases f <;> cases other <;> grind [Frontend.wrappers]

theorem command_launches (undashed : binary.toList.head? ≠ some '-')
    (proper : c.Proper (c.tokens binary)) :
    c.Launches (c.tokens binary) (c.command binary) (c.wrapper.getD c.defaultWrapper) where
  chosen := by
    cases given : c.wrapper with
    | none => exact .inr ⟨rfl, rfl, c.defaultWrapper_mem⟩
    | some wrapper => exact .inl rfl
  native other differ := by
    cases given : c.wrapper with
    | none => exact wrappers_disjoint differ c.defaultWrapper_mem
    | some wrapper => exact proper.wrapper wrapper given other differ
  spelled := by
    rw [command, arguments_eq_tokens]
    cases c.append <;> simp
  mode := by
    obtain ⟨first, last⟩ := (tokens_oneModeFlag_iff c undashed).1 proper.mode
    rw [tokens_modeFlags c undashed, first, last, List.nil_append]

/-- Checking the caller's arguments beforehand is as good as checking the whole command line. -/
theorem invoke_iff_proper (c : CheckerConfig) (base : String) (v : Variant) :
    ((∃ i, c.invoke (v.binaryPath base) = .ok i) ↔ c.Proper (c.tokens (v.binaryPath base))) ∧
    ∀ i, c.invoke (v.binaryPath base) = .ok i →
      ∃ wrapper, c.Launches (c.tokens (v.binaryPath base)) i.command wrapper := by
  -- The base name is the caller's, but every path begins in the output directory.
  have undashed : (v.binaryPath base).toList.head? ≠ some '-' := by
    rw [v.binaryPath_head]
    decide
  simp only [invoke_eq_ok_iff, c.validate_eq_ok_iff_proper undashed]
  constructor
  · simp
  · rintro i ⟨proper, rfl⟩
    exact ⟨_, c.command_launches undashed proper⟩

end CheckerConfig

end RaceFarm
