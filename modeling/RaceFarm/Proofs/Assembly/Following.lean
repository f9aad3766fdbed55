import Mathlib.Data.List.Forall2
import RaceFarm.Proofs.Assembly.Calls

namespace RaceFarm

/-- The invocation of a configuration that passes its checks. -/
def CheckerConfig.invocation (c : CheckerConfig) (binary : String) : Invocation :=
  { command := c.command binary, env := c.env, label := c.label }

namespace Assembly

variable {a b : Assembly}

/-- The step that tests a variant under a valid configuration. -/
def validTest (base : String) (v : Variant) (c : CheckerConfig) (pass : String) : Step :=
  testStep base v c pass (c.invocation (v.binaryPath base))

theorem follow_cons {order : Order} {answer : Option BuiltVariant}
    (done : a.perform order = (b, .ok answer)) (orders : List Order) :
    a.follow (order :: orders) = b.follow orders := by
  simp only [follow, done]

theorem follow_append {first : List Order} (done : a.follow first = .ok b) (second : List Order) :
    a.follow (first ++ second) = b.follow second := by
  induction first generalizing a with
  | nil =>
    cases done
    rfl
  | cons order first ih =>
    cases performed : a.perform order with
    | mk after answer =>
      cases answer with
      | error error => simp [follow, performed] at done
      | ok variant =>
        rw [follow_cons performed] at done
        rw [List.cons_append, follow_cons performed]
        exact ih done

theorem follow_steps (a : Assembly) (steps : List Step) :
    a.follow (steps.map .step) = .ok (a.addSteps steps) := by
  induction steps generalizing a with
  | nil => simp [follow, addSteps]
  | cons step steps ih =>
    have first : a.perform (.step step) = (a.addSteps [step], .ok none) := rfl
    rw [List.map_cons, follow_cons first, ih, addSteps_addSteps, List.singleton_append]

theorem perform_build {r : BuildRequest} {built : Build} (accepted : r.build = .ok built)
    (fresh : a.built.lookup built.variant = none) :
    a.perform (.build r) = (a.addBuild built r.parameters, .ok (some built.product)) := by
  have answer : a.build r = _ := a.build_of_ok accepted
  simp only [fresh] at answer
  simp only [perform, answer]
  rfl

theorem follow_builds {requests : List BuildRequest} {builds : List Build}
    (accepted : List.Forall₂ (fun r built => r.build = .ok built) requests builds)
    (distinct : (builds.map Build.variant).Nodup)
    (fresh : ∀ built ∈ builds, a.built.lookup built.variant = none) :
    ∃ after, a.follow (requests.map .build) = .ok after ∧
      after.steps = a.steps ++ builds.map buildStep := by
  induction accepted generalizing a with
  | nil => exact ⟨a, rfl, by simp⟩
  | @cons r built requests builds first _ ih =>
    obtain ⟨new, distinct⟩ := List.nodup_cons.1 distinct
    have here := fresh built List.mem_cons_self
    have still : ∀ later ∈ builds,
        (a.addBuild built r.parameters).built.lookup later.variant = none := by
      intro later more
      have differ : later.variant ≠ built.variant := by
        intro same
        exact new (List.mem_map.2 ⟨later, more, same⟩)
      rw [a.addBuild_lookup here, if_neg differ]
      exact fresh later (List.mem_cons_of_mem _ more)
    obtain ⟨after, followed, steps⟩ := ih distinct still
    refine ⟨after, ?_, ?_⟩
    · rw [List.map_cons, follow_cons (perform_build first here), followed]
    · rw [steps, addBuild, List.map_cons, List.append_assoc, List.singleton_append]

theorem isAvailable_of_prebuilt {v : Variant} (declared : v ∈ a.prebuilt) :
    a.isAvailable v = true := by
  simp [isAvailable, declared]

theorem isAvailable_of_built {v : Variant} {parameters : BuildParameters}
    (found : a.built.lookup v = some parameters) : a.isAvailable v = true := by
  simp [isAvailable, found]

theorem accepts_of_valid {v : Variant} {c : CheckerConfig} (valid : c.validate = .ok ())
    (supported : c.frontend.supports v.os = true) (available : a.isAvailable v = true) :
    a.Accepts v c (c.invocation (v.binaryPath a.base)) where
  supported := supported
  available := available
  invoked := CheckerConfig.invoke_eq_ok_iff.2 ⟨valid, rfl⟩

theorem perform_test {v : Variant} {c : CheckerConfig} (valid : c.validate = .ok ())
    (supported : c.frontend.supports v.os = true) (available : a.isAvailable v = true) :
    a.perform (.test v c) = (a.addSteps [validTest a.base v c ""], .ok none) := by
  simp only [perform, addTest_of_accepts _ (accepts_of_valid valid supported available)]
  rfl

theorem follow_tests {c : CheckerConfig} (valid : c.validate = .ok ()) {variants : List Variant}
    (supported : ∀ v ∈ variants, c.frontend.supports v.os = true)
    (available : ∀ v ∈ variants, a.isAvailable v = true) :
    a.follow (variants.map (.test · c)) =
      .ok (a.addSteps (variants.map (validTest a.base · c ""))) := by
  induction variants generalizing a with
  | nil => simp [follow, addSteps]
  | cons v variants ih =>
    have first : a.perform (.test v c) = _ := perform_test valid
      (supported v List.mem_cons_self) (available v List.mem_cons_self)
    have rest := ih (a := a.addSteps [validTest a.base v c ""])
      (fun w more => supported w (List.mem_cons_of_mem _ more))
      (fun w more => available w (List.mem_cons_of_mem _ more))
    rw [List.map_cons, follow_cons first, rest, addSteps_addSteps]
    rfl

def verifierSteps (base : String) (v : Variant) (c : CheckerConfig) (verifier : RaceVerifier) :
    List Step :=
  [validTest base v (verifier.firstPass c) " RV 1st pass",
    validTest base v (verifier.secondPass c) " RV 2nd pass"]

theorem addRaceVerifier_of_valid {v : Variant} {c : CheckerConfig} {verifier : RaceVerifier}
    (valid : (verifier.firstPass c).validate = .ok ())
    (supported : c.frontend.supports v.os = true) (available : a.isAvailable v = true) :
    a.addRaceVerifier v c verifier = (a.addSteps (verifierSteps a.base v c verifier), .ok ()) := by
  have checked := (a.checkTestable_eq_ok_iff v c).2 ⟨supported, available⟩
  have first : a.Accepts v (verifier.firstPass c) _ := accepts_of_valid valid supported available
  have second : (a.addSteps [validTest a.base v (verifier.firstPass c) " RV 1st pass"]).Accepts v
      (verifier.secondPass c) _ :=
    accepts_of_valid ((verifier.secondPass_validate c).trans valid) supported available
  have added := addTest_of_accepts a first " RV 1st pass"
  have added' := addTest_of_accepts _ second " RV 2nd pass"
  rw [addSteps_addSteps] at added'
  simp only [addRaceVerifier, checked, added]
  rw [show testStep a.base v (verifier.firstPass c) " RV 1st pass" _ =
    validTest a.base v (verifier.firstPass c) " RV 1st pass" from rfl, added']
  rfl

theorem perform_raceVerifier {v : Variant} {c : CheckerConfig} {verifier : RaceVerifier}
    (valid : (verifier.firstPass c).validate = .ok ())
    (supported : c.frontend.supports v.os = true) (available : a.isAvailable v = true) :
    a.perform (.raceVerifier v c verifier) =
      (a.addSteps (verifierSteps a.base v c verifier), .ok none) := by
  simp only [perform, addRaceVerifier_of_valid valid supported available]
  rfl

end Assembly

end RaceFarm
