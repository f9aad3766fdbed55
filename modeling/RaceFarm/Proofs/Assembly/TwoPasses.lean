import RaceFarm.Proofs.Assembly.Following

namespace RaceFarm

/-- What a pass of the race verifier has of its own. -/
structure VerifierPass where
  /-- Checker arguments right after the wrapper. -/
  own : List String
  /-- Shell text after the command. -/
  ending : String
  /-- Ends the step's description. -/
  name : String

namespace RaceVerifier

def recording (verifier : RaceVerifier) : VerifierPass :=
  { own := ["--show-expected-races", "--error_exitcode=1"]
    ending := "2>&1 | tee " ++ verifier.logFile
    name := " RV 1st pass" }

def replaying (verifier : RaceVerifier) : VerifierPass :=
  { own := ["--error_exitcode=1", "--race-verifier=" ++ verifier.logFile]
    ending := "2>&1"
    name := " RV 2nd pass" }

end RaceVerifier

namespace VerifierPass

variable (p : VerifierPass) (c : CheckerConfig) (filter : String)

def line (binary : String) : String :=
  " ".intercalate (c.launcher ++ [c.wrapper.getD c.defaultWrapper] ++ p.own ++ c.flags ++
    [binary, filter, p.ending])

/-- The step of a pass; everything that is not the pass's own comes from what both passes share. -/
def step (base : String) (v : Variant) : Step :=
  let target := c.label ++ " on " ++ base ++ " " ++ v.describe ++ p.name
  { action := .command .test (.shell (p.line c filter (v.binaryPath base))) c.env
    description := "testing " ++ target
    descriptionDone := "test " ++ target
    fatal := true
    timeoutSecs := c.timeout.map (· / 1000)
    completion := none }

/-- What a pass makes of the caller's configuration. -/
def config : CheckerConfig :=
  { c with extraArgs := p.own, extraTestArgs := [filter], append := some p.ending }

theorem config_command (binary : String) :
    (p.config c filter).command binary = .shell (p.line c filter binary) := by
  have flags : (p.config c filter).flags = c.flags := rfl
  have wrapper : (p.config c filter).defaultWrapper = c.defaultWrapper := rfl
  rw [CheckerConfig.command, CheckerConfig.arguments, flags, wrapper]
  simp [config, line]

theorem config_validTest (base : String) (v : Variant) :
    Assembly.validTest base v (p.config c filter) p.name = p.step c filter base v := by
  rw [Assembly.validTest, Assembly.testStep, CheckerConfig.invocation, config_command]
  rfl

end VerifierPass

namespace RaceVerifier

variable (verifier : RaceVerifier) (c : CheckerConfig)

theorem firstPass_validate_iff :
    (verifier.firstPass c).validate = .ok () ↔
      CheckerConfig.argError c.frontend verifier.testFilter = none ∧
        ∀ wrapper, c.wrapper = some wrapper →
          CheckerConfig.isForeignWrapper c.frontend wrapper = false := by
  rw [CheckerConfig.validate_eq_ok_iff, ← List.findSome?_eq_none_iff, firstPass_argErrors]
  rfl

end RaceVerifier

/-- A run for which the caller chooses the tests and nothing else. -/
def CheckerConfig.filtered (frontend : Frontend) (mode : Mode) (filter : String) : CheckerConfig :=
  { plain frontend mode with extraTestArgs := [filter] }

theorem CheckerConfig.filtered_validate_iff {frontend : Frontend} {mode : Mode} {filter : String} :
    (filtered frontend mode filter).validate = .ok () ↔ argError frontend filter = none := by
  simp [validate_eq_ok_iff, filtered, plain]

namespace Assembly

variable (a : Assembly) (v : Variant) (c : CheckerConfig) (verifier : RaceVerifier)

theorem isAvailable_iff :
    a.isAvailable v = true ↔
      (∃ parameters, a.built.lookup v = some parameters) ∨ v ∈ a.prebuilt := by
  simp [isAvailable, Option.isSome_iff_exists]

/-- What it takes to run the race verifier on a variant. -/
structure Verifiable (filter : String) : Prop where
  supported : c.frontend.supports v.os = true
  available : (∃ parameters, a.built.lookup v = some parameters) ∨ v ∈ a.prebuilt
  filter : (CheckerConfig.filtered c.frontend c.mode filter).validate = .ok ()
  wrapper : ∀ wrapper, c.wrapper = some wrapper →
    ∀ other : Frontend, other ≠ c.frontend → wrapper ∉ other.wrappers

theorem verifiable_iff :
    a.Verifiable v c verifier.testFilter ↔
      c.frontend.supports v.os = true ∧ a.isAvailable v = true ∧
        (verifier.firstPass c).validate = .ok () := by
  rw [isAvailable_iff, verifier.firstPass_validate_iff, ← CheckerConfig.filtered_validate_iff]
  simp only [CheckerConfig.isForeignWrapper_eq_false_iff]
  constructor
  · rintro ⟨supported, available, accepted, wrapper⟩
    exact ⟨supported, available, accepted, wrapper⟩
  · rintro ⟨supported, available, accepted, wrapper⟩
    exact ⟨supported, available, accepted, wrapper⟩

theorem addRaceVerifier_ok_iff :
    (a.addRaceVerifier v c verifier).2 = .ok () ↔ a.Verifiable v c verifier.testFilter := by
  rw [verifiable_iff]
  constructor
  · intro done
    rcases a.addRaceVerifier_cases v c verifier with ⟨error, refused⟩ | ⟨first, -, accepted, -, -⟩
    · rw [refused] at done
      cases done
    · exact ⟨accepted.supported, accepted.available,
        (CheckerConfig.invoke_eq_ok_iff.1 accepted.invoked).1⟩
  · rintro ⟨supported, available, valid⟩
    rw [addRaceVerifier_of_valid valid supported available]

/-- Both passes are one step, up to what each pass has of its own, and nothing of the configuration
    that a pass replaces has a say in them. -/
theorem addRaceVerifier_passes :
    ((a.addRaceVerifier v c verifier).2 = .ok () ↔ a.Verifiable v c verifier.testFilter) ∧
    ((a.addRaceVerifier v c verifier).2 = .ok () →
      (a.addRaceVerifier v c verifier).1 =
        a.addSteps [verifier.recording.step c verifier.testFilter a.base v,
          verifier.replaying.step c verifier.testFilter a.base v]) ∧
    ∀ extraArgs extraTestArgs append,
      a.addRaceVerifier v { c with extraArgs, extraTestArgs, append } verifier =
        a.addRaceVerifier v c verifier := by
  refine ⟨a.addRaceVerifier_ok_iff v c verifier, fun done => ?_, fun _ _ _ => rfl⟩
  obtain ⟨supported, available, valid⟩ :=
    (a.verifiable_iff v c verifier).1 ((a.addRaceVerifier_ok_iff v c verifier).1 done)
  rw [addRaceVerifier_of_valid valid supported available, verifierSteps,
    ← verifier.recording.config_validTest c verifier.testFilter a.base v,
    ← verifier.replaying.config_validTest c verifier.testFilter a.base v]
  rfl

theorem stock_verifier_passes :
    let v : Variant := .plain .windows .x32 .o1 false
    let a := (start "unittest").declare [v]
    let c := { CheckerConfig.plain .pinWin .hybrid with wrapper := some "tsan.bat" }
    let verifier := RaceVerifier.stock
    a.Verifiable v c verifier.testFilter ∧ (a.addRaceVerifier v c verifier).2 = .ok () ∧
      (a.addRaceVerifier v c verifier).1.steps =
        [verifier.recording.step c verifier.testFilter "unittest" v,
          verifier.replaying.step c verifier.testFilter "unittest" v] := by
  intro v a c verifier
  obtain ⟨ok_iff, passes, -⟩ := addRaceVerifier_passes a v c verifier
  have own : ∀ wrapper, c.wrapper = some wrapper →
      ∀ other : Frontend, other ≠ c.frontend → wrapper ∉ other.wrappers := by
    rintro wrapper given other -
    obtain rfl := Option.some.inj given
    cases other <;> decide
  have filter : CheckerConfig.argError c.frontend RaceVerifier.stock.testFilter = none :=
    CheckerConfig.argError_of_letter c.frontend 'g' "test_filter=\"RaceVerifierTests.*\"" rfl
      (by decide)
  have verifiable : a.Verifiable v c verifier.testFilter :=
    ⟨rfl, .inr (by decide), CheckerConfig.filtered_validate_iff.2 filter, own⟩
  have done := ok_iff.2 verifiable
  refine ⟨verifiable, done, ?_⟩
  rw [passes done]
  rfl

end Assembly

end RaceFarm
