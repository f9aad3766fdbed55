import RaceFarm.Proofs.CommandLine.Evaluation

namespace RaceFarm.CommandLine

section Stops

variable {δ : Type} {switches : List (Switch δ)}

theorem Switch.enter_ne_version (switch : Switch δ) (draft : δ) (value : String) :
    switch.enter draft value ≠ .error .version := by
  unfold enter
  cases switch.take draft value <;> nofun

theorem readSwitches_ne_version (draft : δ) (words : List String) :
    readSwitches false switches draft words ≠ .error .version := by
  have taken : ∀ (switch : Switch δ) (draft : δ) (value : String) (words : List String),
      (∀ draft, readSwitches false switches draft words ≠ .error .version) →
        (do readSwitches false switches (← switch.enter draft value) words) ≠
          .error .version := by
    intro switch draft value words later
    cases entered : switch.enter draft value with
    | error stop =>
      rintro ⟨⟩
      exact switch.enter_ne_version draft value entered
    | ok draft => exact later draft
  -- By the words as they are read: one that stops the reading asks for help, and a switch goes on to
  -- fewer words.
  fun_induction readSwitches false switches draft words with
  | case2 draft word words stop asked =>
    rintro ⟨⟩
    unfold Word.stop? at asked
    split at asked <;> simp at asked
  | case8 draft word words _ name switch value _ _ later =>
    exact taken switch draft value words later
  | case10 draft word _ name switch _ value words _ _ later =>
    exact taken switch draft value words later
  | _ => nofun

theorem readAll_ne_version (blank : δ) (words : List String) :
    readAll switches blank words ≠ .error .version := by
  unfold readAll
  cases read : readSwitches false switches blank words with
  | error stop =>
    rintro ⟨⟩
    exact readSwitches_ne_version blank words read
  | ok result =>
    obtain ⟨draft, _ | ⟨word, rest⟩⟩ := result <;> nofun

theorem EvaluateJob.ofWords_ne_version (words : List String) :
    EvaluateJob.ofWords words ≠ .error .version := by
  unfold ofWords
  cases read : readAll evaluateSwitches ⟨none, none, none, none, none, none, none, none⟩ words with
  | error stop =>
    rintro ⟨⟩
    exact readAll_ne_version _ words read
  | ok draft =>
    simp only [bind, Except.bind]
    split
    · nofun
    · split <;> nofun

end Stops

/-- The command line asks for an evaluation, by these words after the command. -/
def Evaluates (args words : List String) : Prop :=
  ∃ level, readSwitches true rootSwitches none args = .ok (level, "evaluate" :: words)

/-- How an evaluation ends, told by its words and the files. -/
inductive Ends (disk : Disk Id) (words : List String) : Answer → Prop where
  | judged {job : EvaluateJob} {report : VerdictReport}
      (asked : EvaluateJob.ofWords words = .ok job) (judges : job.Judges disk report) :
      Ends disk words (.done report.exitCode (job.render report))
  | hindered {job : EvaluateJob} {error : JobError}
      (asked : EvaluateJob.ofWords words = .ok job) (hindered : job.Hindered disk error) :
      Ends disk words (.failed error)
  | misused {misuse : Misuse} (wrong : EvaluateJob.ofWords words = .error (.misuse misuse)) :
      Ends disk words (.misused misuse)
  | helped (asked : EvaluateJob.ofWords words = .error .help) : Ends disk words (.done 0 helpText)

variable {disk : Disk Id} {args words : List String}

theorem Evaluates.ofArgs (evaluates : Evaluates args words) :
    Job.ofArgs args = (EvaluateJob.ofWords words).map .evaluate := by
  obtain ⟨level, read⟩ := evaluates
  unfold Job.ofArgs
  rw [read]
  rfl

theorem Ends.answer_eq {a : Answer} (ends : Ends disk words a) (evaluates : Evaluates args words) :
    (answer disk args).run = a := by
  unfold answer
  rw [evaluates.ofArgs]
  cases ends with
  | judged asked judges =>
    simp only [asked, Except.map, Job.perform, judges.report_eq]
    rfl
  | hindered asked hindered =>
    simp only [asked, Except.map, Job.perform, hindered.report_eq]
    rfl
  | misused wrong =>
    rw [wrong]
    rfl
  | helped asked =>
    rw [asked]
    rfl

theorem exists_ends (disk : Disk Id) (words : List String) : ∃ a, Ends disk words a := by
  cases asked : EvaluateJob.ofWords words with
  | error stop =>
    cases stop with
    | help => exact ⟨_, .helped asked⟩
    | version => exact absurd asked (EvaluateJob.ofWords_ne_version words)
    | misuse misuse => exact ⟨_, .misused asked⟩
  | ok job =>
    rcases EvaluateJob.judges_or_hindered disk job with ⟨report, judges⟩ | ⟨error, hindered⟩
    · exact ⟨_, .judged asked judges⟩
    · exact ⟨_, .hindered asked hindered⟩

def Prints (disk : Disk Id) (args words : List String) (report : VerdictReport) : Prop :=
  ∃ job, EvaluateJob.ofWords words = .ok job ∧ job.Judges disk report ∧
    ∃ code, (answer disk args).run = .done code (job.render report)

/-- The verdict that the status of an evaluation stands for although there is none. -/
inductive TakenFor (disk : Disk Id) (words : List String) : Severity → Prop where
  | help (asked : EvaluateJob.ofWords words = .error .help) : TakenFor disk words .success
  | hindered {job : EvaluateJob} {error : JobError} (asked : EvaluateJob.ofWords words = .ok job)
      (hindered : job.Hindered disk error) : TakenFor disk words .warnings
  | misuse {misuse : Misuse} (wrong : EvaluateJob.ofWords words = .error (.misuse misuse)) :
      TakenFor disk words .failure

/-- The status tells whether there is a verdict, and which. -/
def Identifies (disk : Disk Id) (args words : List String) : Prop :=
  ∀ s : Severity, (answer disk args).run.code = s.exitCode ↔
    ∃ report, Prints disk args words report ∧ report.severity = s

theorem Prints.code_eq {report : VerdictReport} (printed : Prints disk args words report)
    (evaluates : Evaluates args words) :
    (answer disk args).run.code = report.severity.exitCode := by
  obtain ⟨job, asked, judges, -⟩ := printed
  rw [(Ends.judged asked judges).answer_eq evaluates]
  rfl

theorem TakenFor.code_eq {s : Severity} (taken : TakenFor disk words s)
    (evaluates : Evaluates args words) : (answer disk args).run.code = s.exitCode := by
  cases taken with
  | help asked =>
    rw [(Ends.helped asked).answer_eq evaluates]
    rfl
  | hindered asked hindered =>
    rw [(Ends.hindered asked hindered).answer_eq evaluates]
    rfl
  | misuse wrong =>
    rw [(Ends.misused wrong).answer_eq evaluates]
    rfl

theorem prints_or_takenFor (evaluates : Evaluates args words) (disk : Disk Id) :
    (∃ report, Prints disk args words report) ∨ ∃ s, TakenFor disk words s := by
  obtain ⟨a, ends⟩ := exists_ends disk words
  cases ends with
  | judged asked judges =>
    exact .inl ⟨_, _, asked, judges, _, (Ends.judged asked judges).answer_eq evaluates⟩
  | hindered asked hindered => exact .inr ⟨_, .hindered asked hindered⟩
  | misused wrong => exact .inr ⟨_, .misuse wrong⟩
  | helped asked => exact .inr ⟨_, .help asked⟩

theorem Prints.not_takenFor {report : VerdictReport} {s : Severity}
    (printed : Prints disk args words report) : ¬TakenFor disk words s := by
  obtain ⟨job, asked, judges, -⟩ := printed
  intro taken
  cases taken with
  | help asked' => cases asked.symm.trans asked'
  | hindered asked' hindered =>
    obtain rfl := Except.ok.inj (asked.symm.trans asked')
    exact judges.not_hindered hindered
  | misuse wrong => cases asked.symm.trans wrong

theorem code_eq_iff (evaluates : Evaluates args words) (disk : Disk Id) (s : Severity) :
    (answer disk args).run.code = s.exitCode ↔
      (∃ report, Prints disk args words report ∧ report.severity = s) ∨ TakenFor disk words s := by
  constructor
  · intro status
    rcases prints_or_takenFor evaluates disk with ⟨report, printed⟩ | ⟨t, taken⟩
    · have same := (printed.code_eq evaluates).symm.trans status
      exact .inl ⟨report, printed, Severity.exitCode_inj same⟩
    · obtain rfl := Severity.exitCode_inj ((taken.code_eq evaluates).symm.trans status)
      exact .inr taken
  · rintro (⟨report, printed, rfl⟩ | taken)
    · exact printed.code_eq evaluates
    · exact taken.code_eq evaluates

theorem prints_iff (evaluates : Evaluates args words) (disk : Disk Id) :
    (∃ report, Prints disk args words report) ↔ ∀ s, ¬TakenFor disk words s := by
  constructor
  · rintro ⟨report, printed⟩ s
    exact printed.not_takenFor
  · intro nothing
    rcases prints_or_takenFor evaluates disk with printed | ⟨s, taken⟩
    · exact printed
    · exact absurd taken (nothing s)

theorem exists_code_eq (evaluates : Evaluates args words) (disk : Disk Id) :
    ∃ s : Severity, (answer disk args).run.code = s.exitCode := by
  rcases prints_or_takenFor evaluates disk with ⟨report, printed⟩ | ⟨s, taken⟩
  · exact ⟨_, printed.code_eq evaluates⟩
  · exact ⟨s, taken.code_eq evaluates⟩

/-- The status is always one that stands for a verdict. It is that of the verdict that is printed,
    and without one it is taken for success after a call for help, for warnings if something hinders
    the job, and for a failure if the words make no job. -/
theorem evaluate_status (evaluates : Evaluates args words) (disk : Disk Id) :
    (∃ s : Severity, (answer disk args).run.code = s.exitCode) ∧
    (∀ s : Severity, (answer disk args).run.code = s.exitCode ↔
      (∃ report, Prints disk args words report ∧ report.severity = s) ∨ TakenFor disk words s) ∧
    ((∃ report, Prints disk args words report) ↔ ∀ s, ¬TakenFor disk words s) ∧
    (Identifies disk args words ↔ ∃ report, Prints disk args words report) := by
  refine ⟨exists_code_eq evaluates disk, code_eq_iff evaluates disk, prints_iff evaluates disk, ?_⟩
  constructor
  · intro identifies
    obtain ⟨s, status⟩ := exists_code_eq evaluates disk
    obtain ⟨report, printed, -⟩ := (identifies s).1 status
    exact ⟨report, printed⟩
  · rintro ⟨report, printed⟩ s
    rw [code_eq_iff evaluates disk s]
    exact or_iff_left printed.not_takenFor

theorem regression_identified :
    let log := "*RESULT time: total= 150 ms\n"
    let rangesText := "\x7b\"time/total\": \x7b\"improve\": 90.0, \"regress\": 110.0\x7d\x7d"
    let disk : Disk Id :=
      { read := fun path => pure ([("run.log", log), ("ranges.json", rangesText)].lookup path)
        write := fun _ _ => pure false }
    let words := ["--exit-code", "0", "--log", "run.log", "--benchmark", "linux/bigtest",
      "--expectations", "ranges.json"]
    let args := "evaluate" :: words
    Evaluates args words ∧ (answer disk args).run.code = Severity.warnings.exitCode ∧
      (∃ report, Prints disk args words report ∧ report.severity = .warnings) ∧
      Identifies disk args words := by
  intro log rangesText disk words args
  have evaluates : Evaluates args words := ⟨none, rfl⟩
  let job : EvaluateJob :=
    ⟨0, some "run.log", some "linux/bigtest", some "ranges.json", none, .json, none⟩
  have asked : EvaluateJob.ofWords words = .ok job := rfl
  have names : NamesBenchmark "linux/bigtest" "linux" "bigtest" :=
    ⟨rfl, by decide, by decide, by decide, by decide⟩
  let ranges : Expectations := KeyTable.ofList [("time/total",
    ⟨.finite false ⟨0x4056800000000000, by decide⟩, .finite false ⟨0x405B800000000000, by decide⟩⟩)]
  have valid : Json.decode Expectations.reader rangesText = .ok ranges := by
    have read : (Json.decode Expectations.reader rangesText).toOption = some ranges := by
      decide +kernel
    cases decoded : Json.decode Expectations.reader rangesText with
    | error fault =>
      rw [decoded] at read
      cases read
    | ok value =>
      rw [decoded] at read
      rw [Option.some.inj read]
  have expected : job.RangesAre disk ranges := .file rfl rfl valid
  let report := job.reportOn log (some ⟨"linux", "bigtest", ranges⟩)
  have judges : job.Judges disk report := .intro (.file rfl rfl) (.benchmark rfl names expected)
  have printed : Prints disk args words report :=
    ⟨job, asked, judges, _, (Ends.judged asked judges).answer_eq evaluates⟩
  have severity : report.severity = .warnings := by decide +kernel
  obtain ⟨-, stands, -, identifies⟩ := evaluate_status evaluates disk
  exact ⟨evaluates, (stands .warnings).2 (.inl ⟨report, printed, severity⟩),
    ⟨report, printed, severity⟩, identifies.2 ⟨report, printed⟩⟩

theorem lost_log_taken_for_warnings :
    let disk : Disk Id := ⟨fun _ => pure none, fun _ _ => pure false⟩
    let words := ["--exit-code", "0", "--log", "missing.log"]
    let args := "evaluate" :: words
    Evaluates args words ∧ (answer disk args).run = .failed (.unreadableLog "missing.log") ∧
      (answer disk args).run.code = Severity.warnings.exitCode ∧
      (∀ report, ¬Prints disk args words report) ∧ ¬Identifies disk args words := by
  intro disk words args
  have asked : EvaluateJob.ofWords words =
      .ok ⟨0, some "missing.log", none, none, none, .json, none⟩ := rfl
  have taken : TakenFor disk words .warnings := .hindered asked (.log rfl rfl)
  have unprinted : ∀ report, ¬Prints disk args words report :=
    fun report printed => printed.not_takenFor taken
  refine ⟨⟨none, rfl⟩, rfl, rfl, unprinted, ?_⟩
  intro identifies
  obtain ⟨report, printed, -⟩ := (identifies .warnings).1 rfl
  exact unprinted report printed

end RaceFarm.CommandLine
