import RaceFarm.Assembly
import RaceFarm.Proofs.Checker.Validation

namespace RaceFarm

def BuildRequest.parameters (r : BuildRequest) : BuildParameters :=
  { pic := r.pic, extraArgs := r.extraArgs }

namespace Assembly

def addBuild (a : Assembly) (b : Build) (parameters : BuildParameters) : Assembly :=
  { a with
    steps := a.steps ++ [buildStep b]
    built := a.built ++ [(b.variant, parameters)] }

variable (a : Assembly)

theorem addBuild_lookup {b : Build} (fresh : a.built.lookup b.variant = none)
    (parameters : BuildParameters) (w : Variant) :
    (a.addBuild b parameters).built.lookup w =
      if w = b.variant then some parameters else a.built.lookup w := by
  rw [addBuild, List.lookup_append]
  by_cases same : w = b.variant
  · simp [same, fresh]
  · have distinct : (w == b.variant) = false := beq_false_of_ne same
    simp [List.lookup_cons, distinct, same]

theorem build_of_error {r : BuildRequest} {error : ConfigError} (refused : r.build = .error error) :
    a.build r = (a, .error error) := by
  simp only [build, refused]

theorem build_of_ok {r : BuildRequest} {b : Build} (accepted : r.build = .ok b) :
    a.build r =
      match a.built.lookup b.variant with
      | some earlier =>
        if earlier = r.parameters then (a, .ok b.product)
        else (a, .error (.conflictingBuild b.variant))
      | none => (a.addBuild b r.parameters, .ok b.product) := by
  simp only [build, accepted]
  rfl

theorem build_cases (r : BuildRequest) :
    (∃ error, a.build r = (a, .error error)) ∨
    (∃ b, r.build = .ok b ∧ a.built.lookup b.variant = some r.parameters ∧
      a.build r = (a, .ok b.product)) ∨
    ∃ b, r.build = .ok b ∧ a.built.lookup b.variant = none ∧
      a.build r = (a.addBuild b r.parameters, .ok b.product) := by
  cases accepted : r.build with
  | error error => exact .inl ⟨error, a.build_of_error accepted⟩
  | ok b =>
    rw [a.build_of_ok accepted]
    cases earlier : a.built.lookup b.variant with
    | none => exact .inr (.inr ⟨b, rfl, earlier, rfl⟩)
    | some parameters =>
      by_cases same : parameters = r.parameters
      · exact .inr (.inl ⟨b, rfl, by rw [earlier, same], if_pos same⟩)
      · exact .inl ⟨_, if_neg same⟩

theorem checkTestable_eq_ok_iff (v : Variant) (c : CheckerConfig) :
    a.checkTestable v c = .ok () ↔
      c.frontend.supports v.os = true ∧ a.isAvailable v = true := by
  unfold checkTestable
  by_cases supported : c.frontend.supports v.os = true
  · by_cases available : a.isAvailable v = true <;> simp [supported, available]
  · simp [supported]

/-- What lets a checker run on a binary be added. -/
structure Accepts (v : Variant) (c : CheckerConfig) (i : Invocation) : Prop where
  supported : c.frontend.supports v.os = true
  available : a.isAvailable v = true
  invoked : c.invoke (v.binaryPath a.base) = .ok i

theorem addTest_cases (v : Variant) (c : CheckerConfig) (pass : String) :
    (∃ error, a.addTest v c pass = (a, .error error)) ∨
    ∃ i, a.Accepts v c i ∧
      a.addTest v c pass = (a.addSteps [testStep a.base v c pass i], .ok ()) := by
  unfold addTest
  cases checked : a.checkTestable v c with
  | error error => exact .inl ⟨error, rfl⟩
  | ok done =>
    obtain ⟨supported, available⟩ := (a.checkTestable_eq_ok_iff v c).1 checked
    cases invoked : c.invoke (v.binaryPath a.base) with
    | error error => exact .inl ⟨error, rfl⟩
    | ok i => exact .inr ⟨i, ⟨supported, available, invoked⟩, rfl⟩

theorem addTest_of_accepts {v : Variant} {c : CheckerConfig} {i : Invocation}
    (accepted : a.Accepts v c i) (pass : String) :
    a.addTest v c pass = (a.addSteps [testStep a.base v c pass i], .ok ()) := by
  have checked := (a.checkTestable_eq_ok_iff v c).2 ⟨accepted.supported, accepted.available⟩
  simp only [addTest, checked, accepted.invoked]

theorem accepts_secondPass {v : Variant} {c : CheckerConfig} {verifier : RaceVerifier}
    {i : Invocation} (accepted : a.Accepts v (verifier.firstPass c) i) (steps : List Step) :
    ∃ i', (a.addSteps steps).Accepts v (verifier.secondPass c) i' := by
  have valid := (CheckerConfig.invoke_eq_ok_iff.1 accepted.invoked).1
  rw [← verifier.secondPass_validate] at valid
  exact ⟨_, accepted.supported, accepted.available,
    CheckerConfig.invoke_eq_ok_iff.2 ⟨valid, rfl⟩⟩

theorem addSteps_addSteps (first second : List Step) :
    (a.addSteps first).addSteps second = a.addSteps (first ++ second) := by
  simp only [addSteps, List.append_assoc]

theorem addRaceVerifier_cases (v : Variant) (c : CheckerConfig) (verifier : RaceVerifier) :
    (∃ error, a.addRaceVerifier v c verifier = (a, .error error)) ∨
    ∃ first second, a.Accepts v (verifier.firstPass c) first ∧
      a.Accepts v (verifier.secondPass c) second ∧
      a.addRaceVerifier v c verifier =
        (a.addSteps [testStep a.base v (verifier.firstPass c) " RV 1st pass" first,
          testStep a.base v (verifier.secondPass c) " RV 2nd pass" second], .ok ()) := by
  unfold addRaceVerifier
  cases checked : a.checkTestable v c with
  | error error => exact .inl ⟨error, rfl⟩
  | ok done =>
    rcases a.addTest_cases v (verifier.firstPass c) " RV 1st pass" with
      ⟨error, refused⟩ | ⟨first, accepted, added⟩
    · exact .inl ⟨error, by simp only [refused]⟩
    · obtain ⟨second, later⟩ := a.accepts_secondPass accepted
        [testStep a.base v (verifier.firstPass c) " RV 1st pass" first]
      have both := addTest_of_accepts _ later " RV 2nd pass"
      rw [addSteps_addSteps] at both
      refine .inr ⟨first, second, accepted, ⟨later.supported, later.available, later.invoked⟩, ?_⟩
      simp only [added, both]
      rfl

theorem addToolTests_cases (targets : List String) :
    (targets = [] ∧ a.addToolTests targets = (a, .error .emptyToolTests)) ∨
    ∃ first others, targets = first :: others ∧
      a.addToolTests targets = (a.addSteps (Step.toolTests first others), .ok ()) := by
  cases targets with
  | nil => exact .inl ⟨rfl, rfl⟩
  | cons first others => exact .inr ⟨first, others, rfl, rfl⟩

theorem toolTests_length (first : String) (others : List String) :
    (Step.toolTests first others).length = 2 * (first :: others).length := by
  simp [Step.toolTests]
  omega

end Assembly

end RaceFarm
