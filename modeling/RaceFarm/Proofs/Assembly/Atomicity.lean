import RaceFarm.Proofs.Assembly.Calls

namespace RaceFarm.Assembly

/-- A call that fails leaves the assembly as it was, and one that succeeds makes it `grown`. -/
def Atomic {α : Type} (a : Assembly) (result : Assembly × Except ConfigError α)
    (grown : Assembly → α → Prop) : Prop :=
  match result with
  | (after, .error _) => after = a
  | (after, .ok answer) => grown after answer

/-- The same assembly with `count` more steps at the end of its list, its cache aside. -/
structure Extends (a after : Assembly) (count : Nat) : Prop where
  base : after.base = a.base
  steps : ∃ added, after.steps = a.steps ++ added ∧ added.length = count
  prebuilt : after.prebuilt = a.prebuilt

/-- The cache has one more entry, for a variant it did not hold, and all the others as before. -/
structure CacheGains (a after : Assembly) (v : Variant) (parameters : BuildParameters) : Prop where
  fresh : a.built.lookup v = none
  entries : after.built = a.built ++ [(v, parameters)]
  found : ∀ w, after.built.lookup w = if w = v then some parameters else a.built.lookup w

variable (a : Assembly)

theorem addSteps_extends (steps : List Step) : a.Extends (a.addSteps steps) steps.length where
  base := rfl
  steps := ⟨steps, rfl, rfl⟩
  prebuilt := rfl

theorem addBuild_extends (b : Build) (parameters : BuildParameters) :
    a.Extends (a.addBuild b parameters) 1 where
  base := rfl
  steps := ⟨[buildStep b], rfl, rfl⟩
  prebuilt := rfl

theorem addBuild_cacheGains {b : Build} (fresh : a.built.lookup b.variant = none)
    (parameters : BuildParameters) :
    a.CacheGains (a.addBuild b parameters) b.variant parameters where
  fresh := fresh
  entries := rfl
  found := a.addBuild_lookup fresh parameters

theorem build_atomic (r : BuildRequest) :
    a.Atomic (a.build r) fun after built =>
      (a.Extends after 0 ∧ after.built = a.built) ∨
        (a.Extends after 1 ∧ a.CacheGains after built.variant r.parameters) := by
  rcases a.build_cases r with ⟨error, refused⟩ | ⟨b, -, -, cached⟩ | ⟨b, -, fresh, built⟩
  · rw [refused]
    rfl
  · rw [cached]
    exact .inl ⟨⟨rfl, ⟨[], by simp⟩, rfl⟩, rfl⟩
  · rw [built]
    exact .inr ⟨a.addBuild_extends b _, a.addBuild_cacheGains fresh _⟩

theorem addTest_atomic (v : Variant) (c : CheckerConfig) (pass : String) :
    a.Atomic (a.addTest v c pass) fun after _ => a.Extends after 1 ∧ after.built = a.built := by
  rcases a.addTest_cases v c pass with ⟨error, refused⟩ | ⟨i, -, added⟩
  · rw [refused]
    rfl
  · rw [added]
    exact ⟨a.addSteps_extends _, rfl⟩

theorem addRaceVerifier_atomic (v : Variant) (c : CheckerConfig) (verifier : RaceVerifier) :
    a.Atomic (a.addRaceVerifier v c verifier) fun after _ =>
      a.Extends after 2 ∧ after.built = a.built := by
  rcases a.addRaceVerifier_cases v c verifier with ⟨error, refused⟩ | ⟨first, second, -, -, added⟩
  · rw [refused]
    rfl
  · rw [added]
    exact ⟨a.addSteps_extends _, rfl⟩

theorem addToolTests_atomic (targets : List String) :
    a.Atomic (a.addToolTests targets) fun after _ =>
      a.Extends after (2 * targets.length) ∧ after.built = a.built := by
  rcases a.addToolTests_cases targets with ⟨-, refused⟩ | ⟨first, others, rfl, added⟩
  · rw [refused]
    rfl
  · rw [added, ← toolTests_length]
    exact ⟨a.addSteps_extends _, rfl⟩

theorem secondPass_follows {v : Variant} {c : CheckerConfig} {verifier : RaceVerifier}
    (pushed : (a.addTest v (verifier.firstPass c) " RV 1st pass").2 = .ok ()) :
    ((a.addTest v (verifier.firstPass c) " RV 1st pass").1.addTest v (verifier.secondPass c)
      " RV 2nd pass").2 = .ok () := by
  rcases a.addTest_cases v (verifier.firstPass c) " RV 1st pass" with
    ⟨error, refused⟩ | ⟨first, accepted, added⟩
  · simp [refused] at pushed
  · obtain ⟨second, later⟩ := a.accepts_secondPass accepted
      [testStep a.base v (verifier.firstPass c) " RV 1st pass" first]
    rw [added, addTest_of_accepts _ later]

/-- Calls are all or nothing, and the second pass of the race verifier follows its first whenever
    that was added. -/
theorem calls_atomic :
    (∀ r, a.Atomic (a.build r) fun after built =>
      (a.Extends after 0 ∧ after.built = a.built) ∨
        (a.Extends after 1 ∧ a.CacheGains after built.variant r.parameters)) ∧
    (∀ v c, a.Atomic (a.addTest v c "") fun after _ =>
      a.Extends after 1 ∧ after.built = a.built) ∧
    (∀ v c verifier, a.Atomic (a.addRaceVerifier v c verifier) fun after _ =>
      a.Extends after 2 ∧ after.built = a.built) ∧
    (∀ targets, a.Atomic (a.addToolTests targets) fun after _ =>
      a.Extends after (2 * targets.length) ∧ after.built = a.built) ∧
    ∀ v c verifier, (a.addTest v (RaceVerifier.firstPass verifier c) " RV 1st pass").2 = .ok () →
      ((a.addTest v (verifier.firstPass c) " RV 1st pass").1.addTest v (verifier.secondPass c)
        " RV 2nd pass").2 = .ok () :=
  ⟨a.build_atomic, fun v c => a.addTest_atomic v c "", a.addRaceVerifier_atomic,
    a.addToolTests_atomic, fun _ _ _ => a.secondPass_follows⟩

end RaceFarm.Assembly
