import RaceFarm.Proofs.Benchmark.Lines
import RaceFarm.Verdict

namespace RaceFarm

theorem Severity.exitCode_combine (a b : Severity) :
    (a.combine b).exitCode = max a.exitCode b.exitCode := by
  cases a <;> cases b <;> rfl

namespace Monitor

def readings (log : String) : List LogLine :=
  (log.toList.splitOn '\n').map LogLine.ofChars

/-- All lines of all logs, in order. -/
def allLines (logs : List String) : List (List Char) :=
  logs.flatMap fun log => Text.lines log.toList

/-- A monitor that has been given the logs one after the other. -/
def afterLogs (spec : BenchmarkSpec) (logs : List String) : Monitor :=
  logs.foldl addLog (start spec)

/-- How a result compares with what the benchmark expects under its key. -/
def verdictOn (spec : BenchmarkSpec) (r : PerfResult) : Option Deviation :=
  (spec.expectations.get? r.key).bind (·.check r.value)

/-- Keys of the results that deviate in the given way. -/
def deviating (m : Monitor) (way : Deviation) (results : List PerfResult) : List String :=
  (results.filter fun r => m.deviation r = some way).map PerfResult.key

/-- A monitor that has been told the given results and malformed lines as well. -/
def noting (m : Monitor) (results : List PerfResult) (malformed : List String) : Monitor :=
  { m with
    results := m.results ++ results
    regressions := m.regressions ++ m.deviating .regress results
    improvements := m.improvements ++ m.deviating .improve results
    malformed := m.malformed ++ malformed }

theorem noting_nil (m : Monitor) : m.noting [] [] = m := by
  simp [noting, deviating]

theorem noting_noting (m : Monitor) (results results' : List PerfResult)
    (malformed malformed' : List String) :
    (m.noting results malformed).noting results' malformed' =
      m.noting (results ++ results') (malformed ++ malformed') := by
  -- What is expected of later results does not depend on the earlier ones.
  have same : ∀ way, (m.noting results malformed).deviating way results' =
      m.deviating way results' := fun _ => rfl
  have both : ∀ way, m.deviating way (results ++ results') =
      m.deviating way results ++ m.deviating way results' := by
    intro way
    rw [deviating, List.filter_append, List.map_append]
    rfl
  rw [noting, same, same]
  simp only [noting, both, List.append_assoc]

theorem addResult_eq (m : Monitor) (r : PerfResult) : m.addResult r = m.noting [r] [] := by
  unfold addResult noting deviating
  cases found : m.deviation r with
  | none => simp [found]
  | some way => cases way <;> simp [found]

theorem addLine_eq (m : Monitor) (line : LogLine) :
    m.addLine line = m.noting line.result?.toList line.malformed?.toList := by
  cases line with
  | result r => exact m.addResult_eq r
  | malformed text =>
    simp [addLine, noting, deviating, LogLine.result?, LogLine.malformed?]
  | other => exact m.noting_nil.symm

/-- The lines of a log come to the results and the malformed lines among them. -/
theorem foldl_addLine (m : Monitor) (lines : List LogLine) :
    lines.foldl addLine m =
      m.noting (lines.filterMap LogLine.result?) (lines.filterMap LogLine.malformed?) := by
  induction lines generalizing m with
  | nil => exact m.noting_nil.symm
  | cons line lines ih =>
    have results : (line :: lines).filterMap LogLine.result? =
        line.result?.toList ++ lines.filterMap LogLine.result? := by cases line <;> rfl
    have malformed : (line :: lines).filterMap LogLine.malformed? =
        line.malformed?.toList ++ lines.filterMap LogLine.malformed? := by cases line <;> rfl
    rw [List.foldl_cons, ih, addLine_eq, noting_noting, results, malformed]

theorem addLines_eq (m : Monitor) (lines : List LogLine) :
    m.addLines lines =
      { m.noting (lines.filterMap LogLine.result?) (lines.filterMap LogLine.malformed?) with
        processed := true } := by
  rw [addLines, foldl_addLine]
  rfl

theorem addLines_addLines (m : Monitor) (first second : List LogLine) :
    (m.addLines first).addLines second = m.addLines (first ++ second) := by
  simp only [addLines_eq, List.filterMap_append, ← noting_noting]
  rfl

theorem foldl_addLog (m : Monitor) (logs : List String) :
    logs.foldl addLog m =
      { m.noting ((logs.flatMap readings).filterMap LogLine.result?)
          ((logs.flatMap readings).filterMap LogLine.malformed?) with
        processed := m.processed || !logs.isEmpty } := by
  induction logs generalizing m with
  | nil => simp [noting_nil]
  | cons log logs ih =>
    have first : m.addLog log = m.addLines (readings log) := rfl
    have heard : (m.processed || !(log :: logs).isEmpty) = true := by simp
    rw [List.foldl_cons, ih, first, addLines_eq, heard]
    simp only [List.flatMap_cons, List.filterMap_append, ← noting_noting, Bool.true_or]
    rfl

/-- Whatever passes over lines that are neither finds the same in the lines as in the pieces. -/
theorem filterMap_readings {α : Type} {pick : LogLine → Option α} (quiet : pick .other = none)
    (logs : List String) :
    (logs.flatMap readings).filterMap pick =
      (allLines logs).filterMap fun line => pick (LogLine.ofChars line) := by
  rw [allLines, List.filterMap_flatMap, List.filterMap_flatMap]
  congr 1
  funext log
  obtain ⟨tail, blank, same⟩ := LogLine.map_ofChars_pieces log.toList
  have nothing : tail.filterMap pick = [] := by
    rw [List.filterMap_eq_nil_iff]
    intro piece last
    rw [blank piece last, quiet]
  rw [readings, same, List.filterMap_append, nothing, List.append_nil, List.filterMap_map]
  rfl

variable (spec : BenchmarkSpec) (logs : List String)

theorem afterLogs_results :
    (afterLogs spec logs).results =
      (allLines logs).filterMap fun line => (LogLine.ofChars line).result? := by
  rw [afterLogs, foldl_addLog, ← filterMap_readings rfl]
  rfl

theorem afterLogs_malformed :
    (afterLogs spec logs).malformed =
      (allLines logs).filterMap fun line => (LogLine.ofChars line).malformed? := by
  rw [afterLogs, foldl_addLog, ← filterMap_readings rfl]
  rfl

theorem afterLogs_deviating :
    (afterLogs spec logs).regressions =
        ((afterLogs spec logs).results.filter fun r => verdictOn spec r = some .regress).map
          PerfResult.key ∧
      (afterLogs spec logs).improvements =
        ((afterLogs spec logs).results.filter fun r => verdictOn spec r = some .improve).map
          PerfResult.key := by
  rw [afterLogs, foldl_addLog]
  exact ⟨rfl, rfl⟩

theorem afterLogs_processed : (afterLogs spec logs).processed = !logs.isEmpty := by
  rw [afterLogs, foldl_addLog]
  rfl

theorem malformed_eq_filter (lines : List (List Char)) :
    (lines.filterMap fun line => (LogLine.ofChars line).malformed?) =
      (lines.filter fun line => Text.Announces line ∧ (LogLine.ofChars line).result? = none).map
        fun line => String.ofList (Text.trim line) := by
  rw [← List.filterMap_eq_map, List.filterMap_filter]
  congr 1
  funext line
  rcases LogLine.ofChars_cases line with ⟨marked, ⟨r, read⟩ | read⟩ | ⟨unmarked, read⟩
  · simp [read, LogLine.malformed?, LogLine.result?]
  · simp [read, marked, LogLine.malformed?, LogLine.result?]
  · simp [read, unmarked, LogLine.malformed?]

theorem announces_of_result {line : List Char} {r : PerfResult}
    (parsed : (LogLine.ofChars line).result? = some r) : Text.Announces line := by
  rcases LogLine.ofChars_cases line with ⟨marked, -⟩ | ⟨-, read⟩
  · exact marked
  · simp [read, LogLine.result?] at parsed

theorem length_results_add_malformed (lines : List (List Char)) :
    (lines.filterMap fun line => (LogLine.ofChars line).result?).length +
        (lines.filterMap fun line => (LogLine.ofChars line).malformed?).length =
      lines.countP fun line => Text.Announces line := by
  induction lines with
  | nil => rfl
  | cons line lines ih =>
    rcases LogLine.ofChars_cases line with ⟨marked, ⟨r, read⟩ | read⟩ | ⟨unmarked, read⟩
    · have parsed : (LogLine.ofChars line).result? = some r := by rw [read]; rfl
      have fine : (LogLine.ofChars line).malformed? = none := by rw [read]; rfl
      simp only [List.filterMap_cons, parsed, fine, List.length_cons, List.countP_cons, marked,
        decide_true, if_true]
      omega
    · have unparsed : (LogLine.ofChars line).result? = none := by rw [read]; rfl
      have noted : (LogLine.ofChars line).malformed? = some (String.ofList (Text.trim line)) := by
        rw [read]; rfl
      simp only [List.filterMap_cons, unparsed, noted, List.length_cons, List.countP_cons, marked,
        decide_true, if_true]
      omega
    · have unparsed : (LogLine.ofChars line).result? = none := by rw [read]; rfl
      have fine : (LogLine.ofChars line).malformed? = none := by rw [read]; rfl
      simpa [List.filterMap_cons, unparsed, fine, List.countP_cons, unmarked] using ih

theorem length_deviating_le (results : List PerfResult) :
    (results.filter fun r => verdictOn spec r = some .regress).length +
        (results.filter fun r => verdictOn spec r = some .improve).length ≤ results.length := by
  induction results with
  | nil => exact Nat.le_refl _
  | cons r results ih =>
    cases found : verdictOn spec r with
    | none => simp [found]; omega
    | some way => cases way <;> simp [found] <;> omega

/-- Something in the logs is unexpected or unreadable. -/
def Suspect (m : Monitor) : Prop :=
  m.regressions ≠ [] ∨ m.improvements ≠ [] ∨ m.malformed ≠ []

theorem evaluate_cases (m : Monitor) :
    (m.processed = false ∧ m.evaluate = none) ∨
    (m.processed = true ∧ m.results = [] ∧ m.evaluate = some .failure) ∨
    (m.processed = true ∧ m.results ≠ [] ∧ m.Suspect ∧ m.evaluate = some .warnings) ∨
    (m.processed = true ∧ m.results ≠ [] ∧ ¬m.Suspect ∧ m.evaluate = some .success) := by
  unfold evaluate Suspect
  cases m.processed with
  | false => exact .inl ⟨rfl, rfl⟩
  | true =>
    refine .inr ?_
    by_cases empty : m.results = []
    · exact .inl ⟨rfl, empty, by simp [empty]⟩
    · refine .inr ?_
      by_cases suspect : m.regressions ≠ [] ∨ m.improvements ≠ [] ∨ m.malformed ≠ []
      · exact .inl ⟨rfl, empty, suspect, by simp [empty, suspect]⟩
      · exact .inr ⟨rfl, empty, suspect, by simp [empty, suspect]⟩

theorem evaluate_iff (m : Monitor) :
    (m.evaluate = none ↔ m.processed = false) ∧
    (m.evaluate = some .failure ↔ m.processed = true ∧ m.results = []) ∧
    (m.evaluate = some .warnings ↔ m.processed = true ∧ m.results ≠ [] ∧ m.Suspect) ∧
    (m.evaluate = some .success ↔ m.processed = true ∧ m.results ≠ [] ∧ ¬m.Suspect) := by
  rcases m.evaluate_cases with ⟨off, came⟩ | ⟨on, empty, came⟩ | ⟨on, filled, suspect, came⟩ |
    ⟨on, filled, clean, came⟩
  · simp [came, off]
  · simp [came, on, empty]
  · simp [came, on, filled, suspect]
  · simp [came, on, filled, clean]

theorem evaluate_congr {m m' : Monitor} (processed : m.processed = m'.processed)
    (results : m.results = [] ↔ m'.results = []) (suspect : m.Suspect ↔ m'.Suspect) :
    m.evaluate = m'.evaluate := by
  rcases m.evaluate_cases with h | h | h | h <;>
    rcases m'.evaluate_cases with h' | h' | h' | h' <;> simp_all

theorem nil_iff_of_perm {α : Type} {a b : List α} (same : a.Perm b) : a = [] ↔ b = [] := by
  rw [← List.length_eq_zero_iff, same.length_eq, List.length_eq_zero_iff]

/-- The order of lines, and how they are spread over logs, does not matter. -/
theorem evaluate_afterLogs_perm {logs logs' : List String} (told : logs = [] ↔ logs' = [])
    (same : (allLines logs).Perm (allLines logs')) :
    (afterLogs spec logs).evaluate = (afterLogs spec logs').evaluate := by
  have results : (afterLogs spec logs).results.Perm (afterLogs spec logs').results := by
    rw [afterLogs_results, afterLogs_results]
    exact same.filterMap _
  have malformed : (afterLogs spec logs).malformed.Perm (afterLogs spec logs').malformed := by
    rw [afterLogs_malformed, afterLogs_malformed]
    exact same.filterMap _
  have regressions := nil_iff_of_perm
    ((results.filter fun r => verdictOn spec r = some .regress).map PerfResult.key)
  have improvements := nil_iff_of_perm
    ((results.filter fun r => verdictOn spec r = some .improve).map PerfResult.key)
  rw [← (afterLogs_deviating spec logs).1, ← (afterLogs_deviating spec logs').1] at regressions
  rw [← (afterLogs_deviating spec logs).2, ← (afterLogs_deviating spec logs').2] at improvements
  apply evaluate_congr
  · rw [afterLogs_processed, afterLogs_processed, Bool.eq_iff_iff]
    simpa using not_congr told
  · exact nil_iff_of_perm results
  · exact or_congr (not_congr regressions)
      (or_congr (not_congr improvements) (not_congr (nil_iff_of_perm malformed)))

theorem foldl_addLog_grows (m : Monitor) (more : List String) :
    m.results <+: (more.foldl addLog m).results ∧
      (m.Suspect → (more.foldl addLog m).Suspect) ∧
      (m.processed = true → (more.foldl addLog m).processed = true) := by
  rw [foldl_addLog]
  refine ⟨List.prefix_append _ _, ?_, fun processed => by simp [processed]⟩
  rintro (regressed | improved | unread)
  · exact .inl (by simp [noting, regressed])
  · exact .inr (.inl (by simp [noting, improved]))
  · exact .inr (.inr (by simp [noting, unread]))

theorem evaluate_grows {m : Monitor} (processed : m.processed = true) (read : m.results ≠ [])
    (more : List String) :
    ∃ s s', m.evaluate = some s ∧ (more.foldl addLog m).evaluate = some s' ∧
      s.exitCode ≤ s'.exitCode := by
  obtain ⟨results, suspect, still⟩ := m.foldl_addLog_grows more
  have kept : (more.foldl addLog m).results ≠ [] := by
    intro empty
    rw [empty] at results
    exact read (List.prefix_nil.1 results)
  rcases m.evaluate_cases with ⟨off, -⟩ | ⟨-, empty, -⟩ | ⟨-, -, bad, before⟩ | ⟨-, -, good, before⟩
  · simp [processed] at off
  · exact absurd empty read
  · rcases (more.foldl addLog m).evaluate_cases with
      ⟨off, -⟩ | ⟨-, empty, -⟩ | ⟨-, -, -, after⟩ | ⟨-, -, clean, -⟩
    · simp [still processed] at off
    · exact absurd empty kept
    · exact ⟨_, _, before, after, Nat.le_refl _⟩
    · exact absurd (suspect bad) clean
  · rcases (more.foldl addLog m).evaluate_cases with
      ⟨off, -⟩ | ⟨-, empty, -⟩ | ⟨-, -, -, after⟩ | ⟨-, -, -, after⟩
    · simp [still processed] at off
    · exact absurd empty kept
    · exact ⟨_, _, before, after, Nat.zero_le _⟩
    · exact ⟨_, _, before, after, Nat.zero_le _⟩

/-- What holds of a monitor that has been given `logs` and nothing else. -/
structure Accounts (m : Monitor) : Prop where
  -- Every line that announces a result is read or noted as malformed, once, and no other line is.
  results : m.results = (allLines logs).filterMap fun line => (LogLine.ofChars line).result?
  malformed : m.malformed =
    ((allLines logs).filter fun line =>
      Text.Announces line ∧ (LogLine.ofChars line).result? = none).map
        fun line => String.ofList (Text.trim line)
  announced : ∀ line r, (LogLine.ofChars line).result? = some r → Text.Announces line
  complete : m.results.length + m.malformed.length =
    (allLines logs).countP fun line => Text.Announces line
  -- Deviations are those of the results, and no result deviates in both ways.
  regressions : m.regressions =
    (m.results.filter fun r => verdictOn spec r = some .regress).map PerfResult.key
  improvements : m.improvements =
    (m.results.filter fun r => verdictOn spec r = some .improve).map PerfResult.key
  one_way : m.regressions.length + m.improvements.length ≤ m.results.length
  unprocessed_iff : m.evaluate = none ↔ logs = []
  failure_iff : m.evaluate = some .failure ↔ logs ≠ [] ∧ m.results = []
  warnings_iff : m.evaluate = some .warnings ↔ m.results ≠ [] ∧
    (m.regressions ≠ [] ∨ m.improvements ≠ [] ∨ m.malformed ≠ [])
  success_iff : m.evaluate = some .success ↔ m.results ≠ [] ∧
    m.regressions = [] ∧ m.improvements = [] ∧ m.malformed = []
  unordered : ∀ logs', (logs = [] ↔ logs' = []) → (allLines logs).Perm (allLines logs') →
    (afterLogs spec logs').evaluate = m.evaluate
  -- Once there is a result, later logs can only make things worse.
  worsens : ∀ more : List String, m.results ≠ [] → ∃ s s', m.evaluate = some s ∧
    (more.foldl addLog m).evaluate = some s' ∧ s.exitCode ≤ s'.exitCode
  -- A verdict is the worse of the shell's result and what the logs come to.
  verdict : ∀ (o : StepOutcome) revision, ∃ s, (m.addLog o.log).evaluate = some s ∧
    (Verdict.withLog o.shell ((m.addLog o.log).report revision)).severity.exitCode =
      max o.shell.exitCode s.exitCode

theorem evaluate_addLog (m : Monitor) (log : String) : ∃ s, (m.addLog log).evaluate = some s := by
  have heard : (m.addLog log).processed = true := by rw [addLog, addLines_eq]
  rcases (m.addLog log).evaluate_cases with ⟨off, -⟩ | ⟨-, -, h⟩ | ⟨-, -, -, h⟩ | ⟨-, -, -, h⟩
  · simp [heard] at off
  · exact ⟨_, h⟩
  · exact ⟨_, h⟩
  · exact ⟨_, h⟩

theorem withLog_severity (shell s : Severity) {report : LogReport}
    (came : report.severity = some s) :
    (Verdict.withLog shell report).severity.exitCode = max shell.exitCode s.exitCode := by
  rw [← Severity.exitCode_combine, Verdict.withLog, came]
  rfl

/-- The books of a monitor are complete, and its verdict is what the books say. -/
theorem afterLogs_accounts : Accounts spec logs (afterLogs spec logs) := by
  have processed : (afterLogs spec logs).processed = !logs.isEmpty := afterLogs_processed spec logs
  have heard : (afterLogs spec logs).results ≠ [] → logs ≠ [] := by
    rintro read rfl
    exact read rfl
  have read_processed : (afterLogs spec logs).results ≠ [] →
      (afterLogs spec logs).processed = true := by
    intro read
    simpa [processed] using heard read
  obtain ⟨unprocessed, failure, warnings, success⟩ := (afterLogs spec logs).evaluate_iff
  refine
    { results := afterLogs_results spec logs
      malformed := by rw [afterLogs_malformed, malformed_eq_filter]
      announced := fun _ _ => announces_of_result
      complete := by rw [afterLogs_results, afterLogs_malformed, length_results_add_malformed]
      regressions := (afterLogs_deviating spec logs).1
      improvements := (afterLogs_deviating spec logs).2
      one_way := ?_
      unprocessed_iff := by simp [unprocessed, processed]
      failure_iff := by simp [failure, processed]
      warnings_iff := ?_
      success_iff := ?_
      unordered := fun logs' told same => (evaluate_afterLogs_perm spec told same).symm
      worsens := fun more read => evaluate_grows (read_processed read) read more
      verdict := ?_ }
  · rw [(afterLogs_deviating spec logs).1, (afterLogs_deviating spec logs).2, List.length_map,
      List.length_map]
    exact length_deviating_le spec _
  · rw [warnings, Suspect]
    exact and_iff_right_of_imp fun h => read_processed h.1
  · rw [success, Suspect]
    simp only [not_or, ne_eq, Decidable.not_not]
    exact and_iff_right_of_imp fun h => read_processed h.1
  · intro o revision
    obtain ⟨s, came⟩ := evaluate_addLog (afterLogs spec logs) o.log
    exact ⟨s, came, withLog_severity o.shell s came⟩

end Monitor

end RaceFarm
