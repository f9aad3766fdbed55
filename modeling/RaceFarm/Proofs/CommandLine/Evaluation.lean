import RaceFarm.CommandLine.Answer

namespace RaceFarm.CommandLine

/-- A benchmark is named by its platform and its name; the only slash stands between them. -/
structure NamesBenchmark (text platform name : String) : Prop where
  parts : text = platform ++ "/" ++ name
  platform_filled : platform ≠ ""
  name_filled : name ≠ ""
  platform_plain : '/' ∉ platform.toList
  name_plain : '/' ∉ name.toList

theorem NamesBenchmark.named {text platform name : String}
    (names : NamesBenchmark text platform name) :
    benchmarkNamed? text = some ⟨platform, name, .empty⟩ := by
  have chars : text.toList = platform.toList ++ '/' :: name.toList := by
    rw [names.parts, String.toList_append, String.toList_append, List.append_assoc]
    rfl
  have filled : platform.toList ≠ [] ∧ name.toList ≠ [] ∧ '/' ∉ name.toList :=
    ⟨mt String.toList_eq_nil_iff.1 names.platform_filled,
      mt String.toList_eq_nil_iff.1 names.name_filled, names.name_plain⟩
  unfold benchmarkNamed?
  rw [chars, Text.cutAt_append names.platform_plain]
  simp only [if_pos filled, String.ofList_toList]

theorem namesBenchmark_of_named {text : String} {spec : BenchmarkSpec}
    (named : benchmarkNamed? text = some spec) :
    NamesBenchmark text spec.platform spec.benchmark := by
  unfold benchmarkNamed? at named
  split at named
  · rename_i platform name found
    split at named
    · rename_i filled
      obtain ⟨platformFilled, nameFilled, plain⟩ := filled
      obtain ⟨parts, plain'⟩ := Text.cutAt_eq_some found
      obtain rfl := Option.some.inj named
      refine ⟨?_, ?_, ?_, ?_, ?_⟩
      · rw [← String.toList_inj, parts]
        simp
      · simpa using platformFilled
      · simpa using nameFilled
      · simpa using plain'
      · simpa using plain
    · cases named
  · cases named

theorem benchmarkNamed?_eq_none_iff {text : String} :
    benchmarkNamed? text = none ↔ ∀ platform name, ¬NamesBenchmark text platform name := by
  constructor
  · intro unnamed platform name names
    rw [names.named] at unnamed
    cases unnamed
  · intro unnamed
    rw [Option.eq_none_iff_forall_ne_some]
    intro spec named
    exact unnamed _ _ (namesBenchmark_of_named named)

namespace Disk

variable {disk : Disk Id} {path text : String}

def content? (disk : Disk Id) (path : String) : Option String := (disk.read path).run

theorem readText_of_held (held : disk.content? path = some text) (missing : JobError) :
    disk.readText path missing = pure text := by
  have read : disk.read path = pure (some text) := held
  rw [readText, read]
  rfl

theorem readText_of_lost (lost : disk.content? path = none) (missing : JobError) :
    disk.readText path missing = throw missing := by
  have read : disk.read path = pure none := lost
  rw [readText, read]
  rfl

theorem readExpectations_of_valid {ranges : Expectations} (held : disk.content? path = some text)
    (valid : Json.decode Expectations.reader text = .ok ranges) :
    disk.readExpectations path = pure ranges := by
  rw [readExpectations, readText_of_held held, pure_bind, valid]

theorem readExpectations_of_lost (lost : disk.content? path = none) :
    disk.readExpectations path = throw (.unreadableExpectations path) := by
  rw [readExpectations, readText_of_lost lost]
  rfl

theorem readExpectations_of_invalid {fault : Json.Fault} (held : disk.content? path = some text)
    (wrong : Json.decode Expectations.reader text = .error fault) :
    disk.readExpectations path = throw (.invalidExpectations path fault) := by
  rw [readExpectations, readText_of_held held, pure_bind, wrong]

end Disk

namespace EvaluateJob

variable (disk : Disk Id) (job : EvaluateJob)

/-- The output of the step; without a log file it is empty. -/
inductive LogIs : String → Prop where
  | absent (unlisted : job.log = none) : LogIs ""
  | file {path log : String} (listed : job.log = some path)
      (held : disk.content? path = some log) : LogIs log

inductive RangesAre : Expectations → Prop where
  | absent (unlisted : job.expectations = none) : RangesAre .empty
  | file {path text : String} {ranges : Expectations} (listed : job.expectations = some path)
      (held : disk.content? path = some text)
      (valid : Json.decode Expectations.reader text = .ok ranges) : RangesAre ranges

inductive SpecIs : Option BenchmarkSpec → Prop where
  | plain (ungiven : job.benchmark = none) : SpecIs none
  | benchmark {text platform name : String} {ranges : Expectations}
      (given : job.benchmark = some text) (names : NamesBenchmark text platform name)
      (expected : job.RangesAre disk ranges) : SpecIs (some ⟨platform, name, ranges⟩)

def reportOn (log : String) (spec : Option BenchmarkSpec) : VerdictReport :=
  let revision := job.revision.getD unknownRevision
  { tool := tool job.commit
    revision
    benchmark := spec.map fun s => s.platform ++ "/" ++ s.benchmark
    verdict := (StepOutcome.exited job.exitCode log).judge spec revision }

/-- All that the job needs is there, and this report comes of it. -/
inductive Judges : VerdictReport → Prop where
  | intro {log : String} {spec : Option BenchmarkSpec} (logged : job.LogIs disk log)
      (specified : job.SpecIs disk spec) : Judges (job.reportOn log spec)

inductive Unspecified : JobError → Prop where
  | misnamed {text : String} (given : job.benchmark = some text)
      (wrong : ∀ platform name, ¬NamesBenchmark text platform name) :
      Unspecified (.invalidBenchmark text)
  | unreadable {text platform name path : String} (given : job.benchmark = some text)
      (names : NamesBenchmark text platform name) (listed : job.expectations = some path)
      (lost : disk.content? path = none) : Unspecified (.unreadableExpectations path)
  | invalid {text platform name path ranges : String} {fault : Json.Fault}
      (given : job.benchmark = some text) (names : NamesBenchmark text platform name)
      (listed : job.expectations = some path) (held : disk.content? path = some ranges)
      (wrong : Json.decode Expectations.reader ranges = .error fault) :
      Unspecified (.invalidExpectations path fault)

/-- What keeps the job from a verdict. The log is looked at first. -/
inductive Hindered : JobError → Prop where
  | log {path : String} (listed : job.log = some path) (lost : disk.content? path = none) :
      Hindered (.unreadableLog path)
  | spec {log : String} {error : JobError} (logged : job.LogIs disk log)
      (unspecified : job.Unspecified disk error) : Hindered error

variable {disk job}

theorem SpecIs.benchmarkSpec_eq {spec : Option BenchmarkSpec} (is : job.SpecIs disk spec) :
    job.benchmarkSpec disk = pure spec := by
  unfold benchmarkSpec
  cases is with
  | plain ungiven => rw [ungiven]
  | benchmark given names expected =>
    rw [given]
    cases expected with
    | absent unlisted =>
      rw [unlisted]
      simp only [names.named]
    | file listed held valid =>
      rw [listed]
      simp only [names.named, Disk.readExpectations_of_valid held valid, pure_bind]

theorem Unspecified.benchmarkSpec_eq {error : JobError} (unspecified : job.Unspecified disk error) :
    job.benchmarkSpec disk = throw error := by
  unfold benchmarkSpec
  cases unspecified with
  | misnamed given wrong =>
    rw [given]
    simp only [benchmarkNamed?_eq_none_iff.2 wrong]
  | unreadable given names listed lost =>
    rw [given, listed]
    simp only [names.named, Disk.readExpectations_of_lost lost]
    rfl
  | invalid given names listed held wrong =>
    rw [given, listed]
    simp only [names.named, Disk.readExpectations_of_invalid held wrong]
    rfl

theorem specIs_or_unspecified (disk : Disk Id) (job : EvaluateJob) :
    (∃ spec, job.SpecIs disk spec) ∨ ∃ error, job.Unspecified disk error := by
  cases given : job.benchmark with
  | none => exact .inl ⟨none, .plain given⟩
  | some text =>
    cases named : benchmarkNamed? text with
    | none => exact .inr ⟨_, .misnamed given (benchmarkNamed?_eq_none_iff.1 named)⟩
    | some spec =>
      have names := namesBenchmark_of_named named
      cases listed : job.expectations with
      | none => exact .inl ⟨_, .benchmark given names (.absent listed)⟩
      | some path =>
        cases held : disk.content? path with
        | none => exact .inr ⟨_, .unreadable given names listed held⟩
        | some text =>
          cases read : Json.decode Expectations.reader text with
          | error fault => exact .inr ⟨_, .invalid given names listed held read⟩
          | ok ranges => exact .inl ⟨_, .benchmark given names (.file listed held read)⟩

/-- Once the log is known, only the benchmark is left to be found. -/
theorem LogIs.report_eq {log : String} (logged : job.LogIs disk log) :
    job.report disk = (do return job.reportOn log (← job.benchmarkSpec disk)) := by
  unfold report
  cases logged with
  | absent unlisted =>
    rw [unlisted]
    rfl
  | file listed held =>
    simp only [listed, Disk.readText_of_held held, pure_bind]
    rfl

theorem Judges.report_eq {report : VerdictReport} (judges : job.Judges disk report) :
    job.report disk = pure report := by
  obtain ⟨logged, specified⟩ := judges
  rw [logged.report_eq, specified.benchmarkSpec_eq, pure_bind]

theorem Hindered.report_eq {error : JobError} (hindered : job.Hindered disk error) :
    job.report disk = throw error := by
  cases hindered with
  | log listed lost =>
    simp only [report, listed, Disk.readText_of_lost lost]
    rfl
  | spec logged unspecified =>
    rw [logged.report_eq, unspecified.benchmarkSpec_eq]
    rfl

theorem judges_or_hindered (disk : Disk Id) (job : EvaluateJob) :
    (∃ report, job.Judges disk report) ∨ ∃ error, job.Hindered disk error := by
  have described : ∀ log, job.LogIs disk log →
      (∃ report, job.Judges disk report) ∨ ∃ error, job.Hindered disk error := by
    intro log logged
    rcases specIs_or_unspecified disk job with ⟨spec, specified⟩ | ⟨error, unspecified⟩
    · exact .inl ⟨_, .intro logged specified⟩
    · exact .inr ⟨_, .spec logged unspecified⟩
  cases listed : job.log with
  | none => exact described "" (.absent listed)
  | some path =>
    cases held : disk.content? path with
    | none => exact .inr ⟨_, .log listed held⟩
    | some log => exact described log (.file listed held)

theorem Judges.not_hindered {report : VerdictReport} {error : JobError}
    (judges : job.Judges disk report) : ¬job.Hindered disk error := by
  intro hindered
  cases judges.report_eq.symm.trans hindered.report_eq

end EvaluateJob

end RaceFarm.CommandLine
