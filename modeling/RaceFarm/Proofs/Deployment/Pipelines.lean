import RaceFarm.Deployment
import RaceFarm.Proofs.Assembly.Following

namespace RaceFarm

namespace BuildRequest

/-- What a request for an untagged variant builds. -/
def untaggedBuild (r : BuildRequest) : Build :=
  let variant := if r.pic then r.variant.tagged .pic else r.variant
  { command := r.command variant, variant }

theorem build_of_untagged {r : BuildRequest} (untagged : r.variant.suffix = none)
    (plain : findSuffixArgument r.extraArgs = none) : r.build = .ok r.untaggedBuild := by
  cases switched : r.pic <;>
    simp [build, plain, effectiveVariant, untaggedBuild, untagged, switched, bind, Except.bind,
      pure, Except.pure]

end BuildRequest

theorem CheckerConfig.validate_of_letters {c : CheckerConfig} (ownWrapper : c.wrapper = none)
    (accepted : ∀ arg ∈ c.extraArgs ++ c.extraTestArgs, argError c.frontend arg = none) :
    c.validate = .ok () := by
  rw [validate_eq_ok_iff]
  exact ⟨accepted, fun wrapper given => by simp [ownWrapper] at given⟩

namespace TreeBuild

def builds : List Build := testBuilds.map BuildRequest.untaggedBuild

/-- The checker itself: built, packed for all widths, and published. -/
def checkerSteps (s : Settings) : List Step :=
  toolSteps s ++ buildForWidth "32" "l32o" "x86" ++ buildForWidth "64" "l64o" "amd64" ++
    [linkStep] ++ Step.uploadBinaries binaries

def treeSteps : List Step := [.pack archive archivedPaths, .uploadTree archive]

def steps (s : Settings) : List Step :=
  checkerSteps s ++ builds.map Assembly.buildStep ++ treeSteps

theorem testBuilds_build :
    List.Forall₂ (fun r built => r.build = .ok built) testBuilds builds := by
  rw [builds, List.forall₂_map_right_iff, List.forall₂_same]
  have untagged : ∀ r ∈ testBuilds, r.variant.suffix = none ∧ r.extraArgs = [] := by decide
  intro r listed
  obtain ⟨noTag, noArgs⟩ := untagged r listed
  exact BuildRequest.build_of_untagged noTag (by rw [noArgs]; rfl)

theorem builds_distinct : (builds.map Build.variant).Nodup := by decide

theorem follow_orders (s : Settings) :
    ∃ a, (Assembly.start s.testBaseName).follow (orders s) = .ok a ∧ a.steps = steps s := by
  have checker := Assembly.follow_steps (.start s.testBaseName) (checkerSteps s)
  obtain ⟨a, built, added⟩ := Assembly.follow_builds
    (a := (Assembly.start s.testBaseName).addSteps (checkerSteps s))
    testBuilds_build builds_distinct (fun _ _ => rfl)
  have tree := a.follow_steps treeSteps
  refine ⟨a.addSteps treeSteps, ?_, ?_⟩
  · have parts : orders s =
        (checkerSteps s).map .step ++ testBuilds.map .build ++ treeSteps.map .step := rfl
    rw [parts, List.append_assoc, Assembly.follow_append checker, Assembly.follow_append built,
      tree]
  · rw [steps, Assembly.addSteps, added]
    rfl

end TreeBuild

namespace TreeTests

def steps (base : String) : List Step :=
  Step.setUpTree ++ Step.toolTests "amd64-linux-debug" ["x86-linux-debug"] ++
    [outputTests "64" "amd64", outputTests "32" "x86"] ++
    testedVariants.map (Assembly.validTest base · config "")

theorem shippedVariants_eq :
    TreeBuild.shippedVariants = .ok (TreeBuild.builds.map Build.variant) := rfl

theorem config_valid : config.validate = .ok () := by
  apply CheckerConfig.validate_of_letters rfl
  intro arg given
  obtain rfl : arg = "--error_exitcode=1" := by simpa [config, CheckerConfig.plain] using given
  exact CheckerConfig.argError_exitcode _

theorem testedVariants_shipped :
    ∀ v ∈ testedVariants, v.os = .linux ∧ v ∈ TreeBuild.builds.map Build.variant := by decide

theorem follow_orders (base : String) :
    ∃ a, (Assembly.start base).follow (orders (TreeBuild.builds.map Build.variant)) = .ok a ∧
      a.steps = steps base := by
  let outputs := [outputTests "64" "amd64", outputTests "32" "x86"]
  let a := (Assembly.start base).declare (TreeBuild.builds.map Build.variant)
  let b := (a.addSteps Step.setUpTree).addSteps
    (Step.toolTests "amd64-linux-debug" ["x86-linux-debug"])
  have declared : (Assembly.start base).follow [.prebuilt (TreeBuild.builds.map Build.variant)] =
      .ok a := rfl
  have toolTests : (a.addSteps Step.setUpTree).follow
      [.toolTests ["amd64-linux-debug", "x86-linux-debug"]] = .ok b := rfl
  have tests : (b.addSteps outputs).follow (testedVariants.map (.test · config)) = _ :=
    Assembly.follow_tests config_valid
      (fun v tested => by rw [(testedVariants_shipped v tested).1]; rfl)
      (fun v tested => Assembly.isAvailable_of_prebuilt (testedVariants_shipped v tested).2)
  have parts : orders (TreeBuild.builds.map Build.variant) =
      [.prebuilt (TreeBuild.builds.map Build.variant)] ++ (Step.setUpTree.map .step ++
        ([.toolTests ["amd64-linux-debug", "x86-linux-debug"]] ++ (outputs.map .step ++
          testedVariants.map (.test · config)))) := rfl
  rw [parts, Assembly.follow_append declared, Assembly.follow_append (a.follow_steps _),
    Assembly.follow_append toolTests, Assembly.follow_append (b.follow_steps _), tests]
  exact ⟨_, rfl, rfl⟩

end TreeTests

namespace WindowsTests

/-- The variants of the matrix are untagged and made for windows. -/
structure TestRun.Plain (run : TestRun) : Prop where
  untagged : run.variant.suffix = none
  os : run.variant.os = .windows

theorem testMatrix_plain : ∀ run ∈ testMatrix, run.Plain := by
  have checked : ∀ run ∈ testMatrix, run.variant.suffix = none ∧ run.variant.os = .windows := by
    decide
  exact fun run listed => ⟨(checked run listed).1, (checked run listed).2⟩

namespace TestRun

def build (run : TestRun) : Build := run.request.untaggedBuild

def steps (run : TestRun) (base pinRoot : String) : List Step :=
  Assembly.validTest base run.variant (run.config pinRoot) "" ::
    Assembly.verifierSteps base run.variant (run.config pinRoot) .stock

variable {run : TestRun}

theorem Plain.build_eq (plain : run.Plain) : run.request.build = .ok run.build :=
  BuildRequest.build_of_untagged plain.untagged rfl

theorem config_valid (run : TestRun) (pinRoot : String) :
    (run.config pinRoot).validate = .ok () ∧
      (RaceVerifier.stock.firstPass (run.config pinRoot)).validate = .ok () := by
  have filter : CheckerConfig.argError (run.config pinRoot).frontend
      RaceVerifier.stock.testFilter = none :=
    CheckerConfig.argError_of_letter _ 'g' "test_filter=\"RaceVerifierTests.*\"" rfl (by decide)
  constructor
  · apply CheckerConfig.validate_of_letters rfl
    intro arg given
    obtain rfl : arg = "--error_exitcode=1" := by simpa [config, CheckerConfig.plain] using given
    exact CheckerConfig.argError_exitcode _
  · apply CheckerConfig.validate_of_letters rfl
    rw [← List.findSome?_eq_none_iff, ← filter]
    exact RaceVerifier.firstPass_argErrors _ _ _

end TestRun

/-- The steps of runs in turn. A variant is built before its first run, unless it is in `built`. -/
def runSteps (steps : TestRun → List Step) : List Variant → List TestRun → List Step
  | _, [] => []
  | built, run :: runs =>
    (if run.variant ∈ built then [] else [Assembly.buildStep run.build]) ++ steps run ++
      runSteps steps (run.variant :: built) runs

/-- The assembly has built the given variants, each for a run of the matrix. -/
def Holds (a : Assembly) (built : List Variant) : Prop :=
  ∀ v, a.built.lookup v = if v ∈ built then some ⟨false, []⟩ else none

section AddRun

variable {a : Assembly} {s : Settings} {run : TestRun} {built : List Variant}

theorem follow_tests (base : a.base = s.testBaseName) (plain : run.Plain)
    (available : a.isAvailable run.variant = true) :
    a.follow [.test run.variant (run.config s.windowsPinRoot),
        .raceVerifier run.variant (run.config s.windowsPinRoot) .stock] =
      .ok (a.addSteps (run.steps s.testBaseName s.windowsPinRoot)) := by
  obtain ⟨valid, validPass⟩ := run.config_valid s.windowsPinRoot
  have supported : (run.config s.windowsPinRoot).frontend.supports run.variant.os = true := by
    rw [plain.os]
    rfl
  have test := Assembly.perform_test valid supported available
  have verifier := Assembly.perform_raceVerifier
    (a := a.addSteps [Assembly.validTest a.base run.variant (run.config s.windowsPinRoot) ""])
    validPass supported available
  rw [Assembly.follow_cons test, Assembly.follow_cons verifier, Assembly.addSteps_addSteps,
    TestRun.steps, ← base]
  rfl

theorem addRun_cached (base : a.base = s.testBaseName) (plain : run.Plain) (holds : Holds a built)
    (here : run.variant ∈ built) :
    addRun s a run = .ok (a.addSteps (run.steps s.testBaseName s.windowsPinRoot)) := by
  have found : a.built.lookup run.variant = some ⟨false, []⟩ := by rw [holds, if_pos here]
  have answer : a.build run.request = (a, .ok run.build.product) := by
    rw [a.build_of_ok plain.build_eq, show run.build.variant = run.variant from rfl, found]
    rfl
  simp only [addRun, answer]
  exact follow_tests base plain (Assembly.isAvailable_of_built found)

theorem addRun_fresh (base : a.base = s.testBaseName) (plain : run.Plain) (holds : Holds a built)
    (new : run.variant ∉ built) :
    addRun s a run = .ok ((a.addBuild run.build ⟨false, []⟩).addSteps
      (run.steps s.testBaseName s.windowsPinRoot)) ∧
        Holds (a.addBuild run.build ⟨false, []⟩) (run.variant :: built) := by
  have fresh : a.built.lookup run.variant = none := by rw [holds, if_neg new]
  have found : ∀ v, (a.addBuild run.build ⟨false, []⟩).built.lookup v =
      if v = run.variant then some ⟨false, []⟩ else a.built.lookup v :=
    a.addBuild_lookup (b := run.build) fresh ⟨false, []⟩
  have answer : a.build run.request = (a.addBuild run.build ⟨false, []⟩, .ok run.build.product) := by
    rw [a.build_of_ok plain.build_eq, show run.build.variant = run.variant from rfl, fresh]
    rfl
  constructor
  · simp only [addRun, answer]
    exact follow_tests (a := a.addBuild run.build ⟨false, []⟩) base plain
      (Assembly.isAvailable_of_built ((found _).trans (if_pos rfl)))
  · intro v
    rw [found, holds]
    by_cases same : v = run.variant <;> simp [same]

/-- A run adds its tests, after the build of its variant if there is none yet. -/
theorem addRun_ok (base : a.base = s.testBaseName) (plain : run.Plain) (holds : Holds a built) :
    ∃ after, addRun s a run = .ok after ∧ after.base = s.testBaseName ∧
      Holds after (run.variant :: built) ∧
      after.steps = a.steps ++
        ((if run.variant ∈ built then [] else [Assembly.buildStep run.build]) ++
          run.steps s.testBaseName s.windowsPinRoot) := by
  by_cases here : run.variant ∈ built
  · refine ⟨_, addRun_cached base plain holds here, base, ?_, ?_⟩
    · intro v
      have same : v ∈ run.variant :: built ↔ v ∈ built := by
        rw [List.mem_cons, or_iff_right_of_imp]
        rintro rfl
        exact here
      simp only [same]
      exact holds v
    · simp [here, Assembly.addSteps]
  · obtain ⟨ran, grown⟩ := addRun_fresh base plain holds here
    refine ⟨_, ran, base, grown, ?_⟩
    simp [here, Assembly.addSteps, Assembly.addBuild]

end AddRun

theorem foldlM_addRun {s : Settings} {runs : List TestRun} (plain : ∀ run ∈ runs, run.Plain)
    {a : Assembly} {built : List Variant} (base : a.base = s.testBaseName) (holds : Holds a built) :
    ∃ after, runs.foldlM (addRun s) a = .ok after ∧
      after.steps = a.steps ++
        runSteps (·.steps s.testBaseName s.windowsPinRoot) built runs := by
  induction runs generalizing a built with
  | nil => exact ⟨a, rfl, by rw [runSteps, List.append_nil]⟩
  | cons run runs ih =>
    obtain ⟨here, others⟩ := List.forall_mem_cons.1 plain
    obtain ⟨middle, ran, base', grown, first⟩ := addRun_ok base here holds
    obtain ⟨after, added, steps⟩ := ih others base' grown
    refine ⟨after, ?_, ?_⟩
    · rw [List.foldlM_cons, ran]
      exact added
    · rw [steps, first, runSteps, List.append_assoc]

def checkerSteps (s : Settings) : List Step :=
  toolSteps s ++ Step.toolTests "x86-windows-debug" []

def steps (s : Settings) : List Step :=
  checkerSteps s ++ runSteps (·.steps s.testBaseName s.windowsPinRoot) [] testMatrix ++ uploads

theorem assemble_start (s : Settings) :
    ∃ a, assemble s (.start s.testBaseName) = .ok a ∧ a.steps = steps s := by
  let tool := (Assembly.start s.testBaseName).addSteps (toolSteps s)
  let a := tool.addSteps (Step.toolTests "x86-windows-debug" [])
  have toolTests : tool.follow [.toolTests ["x86-windows-debug"]] = .ok a := rfl
  have checker : (Assembly.start s.testBaseName).follow
      ((toolSteps s).map .step ++ [.toolTests ["x86-windows-debug"]]) = .ok a := by
    rw [Assembly.follow_append (Assembly.follow_steps _ (toolSteps s)), toolTests]
  have nothing : Holds a [] := fun _ => rfl
  obtain ⟨after, added, tested⟩ := foldlM_addRun (s := s) testMatrix_plain rfl nothing
  refine ⟨after.addSteps uploads, ?_, ?_⟩
  · simp only [assemble, checker, bind, Except.bind, added]
    rfl
  · rw [Assembly.addSteps, tested]
    rfl

end WindowsTests

theorem Builder.sharedName?_eq_none_iff {taken : List String} {builders : List Builder} :
    sharedName? taken builders = none ↔
      (builders.map name).Nodup ∧ ∀ b ∈ builders, b.name ∉ taken := by
  induction builders generalizing taken with
  | nil => simp [sharedName?]
  | cons b builders ih =>
    unfold sharedName?
    by_cases used : b.name ∈ taken
    · simp [used]
    · have fresh : (∀ d ∈ builders, d.name ∉ b.name :: taken) ↔
          b.name ∉ builders.map name ∧ ∀ d ∈ builders, d.name ∉ taken := by
        simp only [List.mem_cons, not_or, List.mem_map, not_exists, not_and]
        exact forall₂_and
      simp only [List.contains_iff_mem, used, if_false, ih, fresh, List.map_cons, List.nodup_cons,
        List.forall_mem_cons, not_false_eq_true, true_and]
      tauto

theorem Builder.checkNames_eq_ok_iff {builders : List Builder} :
    checkNames builders = .ok () ↔ (builders.map name).Nodup := by
  have unshared : sharedName? [] builders = none ↔ (builders.map name).Nodup := by
    simp [sharedName?_eq_none_iff]
  rw [← unshared, checkNames]
  cases sharedName? [] builders <;> simp

namespace Settings

def stockSteps (s : Settings) : PipelineId → List Step
  | .linuxBuild => TreeBuild.steps s
  | .linuxSmall => TreeTests.steps s.testBaseName
  | .windows => WindowsTests.steps s

/-- What a deployment makes of a pipeline: its stock, and the benchmarks declared for it. -/
def generated (s : Settings) (id : PipelineId) : Pipeline :=
  ⟨s.stockSteps id ++ (s.benchmarksFor id).map benchmarkStep⟩

theorem assembleStock_start (s : Settings) (id : PipelineId) :
    ∃ a, s.assembleStock (.start s.testBaseName) id = .ok a ∧ a.steps = s.stockSteps id := by
  cases id with
  | linuxBuild => exact TreeBuild.follow_orders s
  | linuxSmall =>
    obtain ⟨a, followed, steps⟩ := TreeTests.follow_orders s.testBaseName
    refine ⟨a, ?_, steps⟩
    simp only [assembleStock, TreeTests.shippedVariants_eq, bind, Except.bind, followed]
  | windows => exact WindowsTests.assemble_start s

theorem pipeline_eq (s : Settings) (id : PipelineId) : s.pipeline id = .ok (s.generated id) := by
  obtain ⟨a, assembled, steps⟩ := s.assembleStock_start id
  simp only [pipeline, assembled, bind, Except.bind]
  rw [generated, ← steps]
  rfl

def catalogue (s : Settings) : Catalogue where
  builders := TreeBuild.builders ++ TreeTests.builders ++ WindowsTests.builders
  pipelines := .ofFn fun id => some (s.generated id)

theorem catalogue_names (s : Settings) : (s.catalogue.builders.map Builder.name).Nodup := by
  change ([_, _, _, _, _] : List String).Nodup
  decide

/-- Every deployment succeeds. -/
theorem deploy_eq (s : Settings) : s.deploy = .ok s.catalogue := by
  have names : Builder.checkNames s.catalogue.builders = .ok () :=
    Builder.checkNames_eq_ok_iff.2 s.catalogue_names
  rw [catalogue] at names
  simp only [deploy, pipeline_eq, bind, Except.bind, names]
  rfl

end Settings

end RaceFarm
