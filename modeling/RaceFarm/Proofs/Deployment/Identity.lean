import Mathlib.Data.List.Basic
import RaceFarm.Proofs.Deployment.Roles
import RaceFarm.Proofs.Variant.Naming

namespace RaceFarm

/-- The declaration that a benchmark's step was made for, in the pipeline it is part of. -/
def Step.declaration? (id : PipelineId) (step : Step) : Option BenchmarkSettings :=
  match step.command?, step.benchmark? with
  | some (.shell line), some spec =>
    some {
      pipeline := id, platform := spec.platform, name := spec.benchmark, command := line
      expectations := spec.expectations }
  | _, _ => none

theorem Step.declaration?_eq_none {step : Step} (other : step.benchmark? = none) (id : PipelineId) :
    step.declaration? id = none := by
  simp [declaration?, other]

def Catalogue.declarations (c : Catalogue) : List BenchmarkSettings :=
  c.pipelines.toList.flatMap fun (id, p) => p.steps.filterMap (Step.declaration? id)

/-- The settings agree on everything that pipelines are made from. -/
structure Settings.Agree (s t : Settings) : Prop where
  svnurl : s.svnurl = t.svnurl
  valgrindBuildUrl : s.valgrindBuildUrl = t.valgrindBuildUrl
  windowsPinRoot : s.windowsPinRoot = t.windowsPinRoot
  testBaseName : s.testBaseName = t.testBaseName
  benchmarks : ∀ id, s.benchmarksFor id = t.benchmarksFor id

theorem Variant.binaryPath_base_inj {v : Variant} {base base' : String}
    (same : v.binaryPath base = v.binaryPath base') : base = base' := by
  have spelled := congrArg String.toList same
  rw [binaryPath, binaryPath, String.toList_append, String.toList_append,
    List.append_cancel_left_eq, artifactName_toList, artifactName_toList] at spelled
  exact String.toList_inj.1 (List.append_cancel_right spelled)

theorem CheckerConfig.command_inj {c : CheckerConfig} {binary binary' : String}
    (plain : c.append = none) (same : c.command binary = c.command binary') :
    binary = binary' := by
  simp only [command, plain, Command.argv.injEq] at same
  have listed := (List.cons.inj (List.append_cancel_left same)).2
  rw [arguments, arguments] at listed
  exact List.singleton_inj.1 (List.append_cancel_left (List.append_cancel_right listed))

namespace Settings

def stockLength : PipelineId → Nat
  | .linuxBuild => 28
  | .linuxSmall => 14
  | .windows => 21

theorem stockSteps_length (s : Settings) (id : PipelineId) :
    (s.stockSteps id).length = stockLength id := by
  rw [s.stockSteps_length_roles]
  cases id <;> rfl

theorem stockSteps_benchmark? (s : Settings) (id : PipelineId) :
    ∀ step ∈ s.stockSteps id, step.benchmark? = none := by
  have stock : ∀ role ∈ stockRoles id, role.completion = none ∨ role = .capture := by
    cases id <;> decide
  intro step listed
  rcases stockSteps_all stock s step listed with none | capture
  · rw [Step.benchmark?, show step.completion = _ from none]
  · rw [Step.benchmark?, show step.completion = _ from congrArg StepRole.completion capture]
    rfl

theorem stockSteps_congr {s t : Settings} (agree : s.Agree t) (id : PipelineId) :
    s.stockSteps id = t.stockSteps id := by
  obtain ⟨svnurl, valgrind, pinRoot, base, -⟩ := agree
  cases id with
  | linuxBuild =>
    have tool : TreeBuild.toolSteps s = TreeBuild.toolSteps t := by
      rw [TreeBuild.toolSteps, TreeBuild.toolSteps, svnurl, valgrind]
    simp only [stockSteps, TreeBuild.steps, TreeBuild.checkerSteps, tool]
  | linuxSmall => exact congrArg TreeTests.steps base
  | windows =>
    have tool : WindowsTests.toolSteps s = WindowsTests.toolSteps t := by
      rw [WindowsTests.toolSteps, WindowsTests.toolSteps, svnurl, pinRoot]
    simp only [stockSteps, WindowsTests.steps, WindowsTests.checkerSteps, tool, pinRoot, base]

theorem benchmarkStep_declaration? (b : BenchmarkSettings) :
    (benchmarkStep b).declaration? b.pipeline = some b := rfl

theorem declarations_eq (s : Settings) (id : PipelineId) :
    ((s.benchmarksFor id).map benchmarkStep).map (Step.declaration? id) =
      (s.benchmarksFor id).map some := by
  rw [List.map_map]
  apply List.map_congr_left
  intro b listed
  have here : b.pipeline = id := by simpa using (List.mem_filter.1 listed).2
  rw [← here]
  exact benchmarkStep_declaration? b

theorem benchmarksFor_inj {s t : Settings} {id : PipelineId}
    (same : (s.benchmarksFor id).map benchmarkStep = (t.benchmarksFor id).map benchmarkStep) :
    s.benchmarksFor id = t.benchmarksFor id := by
  have declared := congrArg (List.map (Step.declaration? id)) same
  rw [declarations_eq, declarations_eq] at declared
  exact List.map_injective_iff.2 (fun _ _ => Option.some.inj) declared

/-- Where each of the four texts can be read off the stock steps. -/
theorem stockSteps_texts (s : Settings) :
    (s.stockSteps .linuxBuild)[0]? = some (.checkout s.svnurl) ∧
    (s.stockSteps .linuxBuild)[3]?.bind Step.command? = some (.argv ["wget", s.valgrindBuildUrl]) ∧
    (s.stockSteps .windows)[3]?.bind Step.command? =
      some (WindowsTests.makeTool s.windowsPinRoot ["-j4"] "w32o") ∧
    (s.stockSteps .linuxSmall)[12]?.bind Step.command? = some (TreeTests.config.command
      ((Variant.plain .linux .x64 .o0 false).binaryPath s.testBaseName)) :=
  ⟨rfl, rfl, rfl, rfl⟩

theorem agree_of_catalogue_eq {s t : Settings} (same : s.catalogue = t.catalogue) : s.Agree t := by
  have pipelines : ∀ id, s.generated id = t.generated id := by
    intro id
    have listed := congrArg (fun c => c.pipelines.get? id) same
    simpa [catalogue] using listed
  have stock : ∀ id, s.stockSteps id = t.stockSteps id ∧
      (s.benchmarksFor id).map benchmarkStep = (t.benchmarksFor id).map benchmarkStep := by
    intro id
    have steps := congrArg Pipeline.steps (pipelines id)
    apply List.append_inj steps
    rw [s.stockSteps_length, t.stockSteps_length]
  obtain ⟨svnurl, valgrind, pinRoot, base⟩ := s.stockSteps_texts
  obtain ⟨svnurl', valgrind', pinRoot', base'⟩ := t.stockSteps_texts
  rw [(stock _).1] at svnurl valgrind pinRoot base
  refine ⟨?_, ?_, ?_, ?_, fun id => benchmarksFor_inj (stock id).2⟩
  · have same := svnurl.symm.trans svnurl'
    simpa [Step.checkout, Step.ofAction] using same
  · have same := valgrind.symm.trans valgrind'
    simpa using same
  · have same := pinRoot.symm.trans pinRoot'
    simpa [WindowsTests.makeTool] using same
  · have same := base.symm.trans base'
    rw [Option.some.injEq] at same
    exact Variant.binaryPath_base_inj (CheckerConfig.command_inj rfl same)

theorem Agree.catalogue_eq {s t : Settings} (agree : s.Agree t) : s.catalogue = t.catalogue := by
  have pipelines : ∀ id, s.generated id = t.generated id := by
    intro id
    rw [generated, generated, stockSteps_congr agree, agree.benchmarks]
  simp only [catalogue, pipelines]

theorem deploy_eq_iff (s t : Settings) : s.deploy = t.deploy ↔ s.Agree t := by
  rw [deploy_eq, deploy_eq, Except.ok.injEq]
  exact ⟨agree_of_catalogue_eq, Agree.catalogue_eq⟩

theorem generated_declarations (s : Settings) (id : PipelineId) :
    (s.generated id).steps.filterMap (Step.declaration? id) = s.benchmarksFor id := by
  have stock : (s.stockSteps id).filterMap (Step.declaration? id) = [] := by
    rw [List.filterMap_eq_nil_iff]
    intro step listed
    exact Step.declaration?_eq_none (s.stockSteps_benchmark? id step listed) id
  have benchmarks := congrArg (List.filterMap fun declared => declared) (s.declarations_eq id)
  rw [generated, List.filterMap_append, stock, List.nil_append]
  simpa [List.filterMap_map] using benchmarks

theorem benchmarks_perm (s : Settings) :
    (PipelineId.all.flatMap s.benchmarksFor).Perm s.benchmarks := by
  rw [List.perm_iff_count]
  intro b
  have counted : ∀ id, (s.benchmarksFor id).count b =
      if b.pipeline = id then s.benchmarks.count b else 0 := by
    intro id
    split
    · rename_i here
      exact List.count_filter (by simpa using here)
    · rename_i elsewhere
      apply List.count_eq_zero.2
      intro listed
      exact elsewhere (by simpa using (List.mem_filter.1 listed).2)
  simp only [PipelineId.all, List.flatMap_cons, List.flatMap_nil, List.count_append, counted]
  cases b.pipeline <;> simp

/-- What a deployment makes of the benchmarks in its settings. -/
structure Deploys (s : Settings) (c : Catalogue) : Prop where
  -- The steps of its benchmarks follow a fixed number of others, none of which processes the log
  -- of a benchmark.
  pipeline : ∀ id, ∃ stock benchmarks, c.pipelines.get? id = some ⟨stock ++ benchmarks⟩ ∧
    stock.length = stockLength id ∧ (∀ step ∈ stock, step.benchmark? = none) ∧
    benchmarks.map (Step.declaration? id) = (s.benchmarksFor id).map some
  once : c.declarations.Perm s.benchmarks

theorem catalogue_deploys (s : Settings) : Deploys s s.catalogue where
  pipeline id := by
    refine ⟨s.stockSteps id, (s.benchmarksFor id).map benchmarkStep, ?_, s.stockSteps_length id,
      s.stockSteps_benchmark? id, s.declarations_eq id⟩
    simp [catalogue, generated]
  once := by
    have declared : s.catalogue.declarations = PipelineId.all.flatMap s.benchmarksFor := by
      simp [Catalogue.declarations, catalogue, Pipelines.toList, PipelineId.all,
        generated_declarations]
    rw [declared]
    exact s.benchmarks_perm

/-- Deployment succeeds, keeps every benchmark, and tells any two settings apart that differ in
    something pipelines are made from. -/
theorem deploy_faithful (s : Settings) :
    (∃ c, s.deploy = .ok c ∧ Deploys s c) ∧ ∀ t : Settings, s.deploy = t.deploy ↔ s.Agree t :=
  ⟨⟨s.catalogue, s.deploy_eq, s.catalogue_deploys⟩, s.deploy_eq_iff⟩

end Settings

end RaceFarm
