import RaceFarm.Proofs.Run.Recording

namespace RaceFarm.Run

/-- The records stand for the first steps of the pipeline, and the run is halted exactly where a
    verdict ended it. -/
structure Consistent (p : Pipeline) (r : Run) : Prop where
  pipeline : r.pipeline = p
  bounded : r.records.length ≤ p.steps.length
  placed : ∀ i (record : StepRecord), r.records[i]? = some record →
    record.index = i ∧
      ∃ step : Step, p.steps[i]? = some step ∧ record.description = step.descriptionDone
  halted_iff : ∀ i (record : StepRecord) (step : Step),
    r.records[i]? = some record → p.steps[i]? = some step →
      (r.haltedAt = some i ↔ record.verdict.Ends step)
  halted_last : ∀ i, r.haltedAt = some i → i + 1 = r.records.length

theorem Consistent.start (p : Pipeline) : (start p).Consistent p where
  pipeline := rfl
  bounded := Nat.zero_le _
  placed := by simp [Run.start]
  halted_iff := by simp [Run.start]
  halted_last := by simp [Run.start]

theorem Consistent.settled {p : Pipeline} {r : Run} {step : Step} (o : StepOutcome)
    (consistent : r.Consistent p) (pending : r.next = some step) :
    (r.settled step (step.settle o r.slot)).Consistent p := by
  obtain ⟨running, here⟩ := next_eq_some_iff.1 pending
  rw [consistent.pipeline] at here
  refine ⟨consistent.pipeline, ?_, ?_, ?_, ?_⟩
  · obtain ⟨inside, -⟩ := List.getElem?_eq_some_iff.1 here
    simp only [Run.settled, List.length_append, List.length_singleton]
    omega
  · intro i record present
    rcases settled_getElem?_eq_some_iff.1 present with old | ⟨rfl, rfl⟩
    · exact consistent.placed i record old
    · exact ⟨rfl, step, here, rfl⟩
  · intro i record step' present at_i
    rcases settled_getElem?_eq_some_iff.1 present with old | ⟨rfl, rfl⟩
    · obtain ⟨earlier, -⟩ := List.getElem?_eq_some_iff.1 old
      have quiet := consistent.halted_iff i record step' old at_i
      rw [running] at quiet
      have elsewhere : r.records.length ≠ i := Nat.ne_of_gt earlier
      simpa [Run.settled, elsewhere] using quiet
    · obtain rfl : step = step' := Option.some.inj (here.symm.trans at_i)
      rw [show (r.entry step _).verdict = (step.settle o r.slot).verdict from rfl,
        ← Step.settle_halts_iff]
      simp [Run.settled]
  · intro i halted
    simp only [Run.settled, Option.ite_none_right_eq_some, Option.some.injEq] at halted
    simp [Run.settled, halted.2]

theorem recordAll_consistent (p : Pipeline) (outcomes : List StepOutcome) :
    ((start p).recordAll outcomes).Consistent p :=
  recordAll_induction (motive := fun _ r => r.Consistent p) (.start p)
    (fun _ _ _ _ consistent _ => consistent)
    (fun _ _ o _ _ consistent pending => consistent.settled o pending) outcomes

theorem pending_place {p : Pipeline} {outcomes : List StepOutcome} {r : Run} {step : Step}
    (reached : r = (start p).recordAll outcomes) (pending : r.next = some step) :
    p.steps[r.records.length]? = some step ∧ r.records.length = outcomes.length := by
  subst reached
  have here := (next_eq_some_iff.1 pending).2
  rw [(recordAll_consistent p outcomes).pipeline] at here
  have pace := (recordAll_pace p outcomes).2
  rw [pending] at pace
  exact ⟨here, by simpa using pace⟩

theorem Consistent.next_of_running {p : Pipeline} {r : Run} (consistent : r.Consistent p)
    (running : r.haltedAt = none) : r.next = p.steps[r.records.length]? := by
  simp only [next, running, consistent.pipeline]

theorem next_of_halted {r : Run} {i : Nat} (halted : r.haltedAt = some i) : r.next = none := by
  simp only [next, halted]

/-- What holds of a run of `p` whatever it has been told. -/
structure Orderly (p : Pipeline) (r : Run) : Prop where
  -- The records are those of the first steps, in order.
  bounded : r.records.length ≤ p.steps.length
  placed : ∀ i (record : StepRecord), r.records[i]? = some record →
    record.index = i ∧
      ∃ step : Step, p.steps[i]? = some step ∧ record.description = step.descriptionDone
  -- A halted run has failed at its last record.
  halted : ∀ i, r.haltedAt = some i → i + 1 = r.records.length ∧
    ∃ record, r.records[i]? = some record ∧ record.verdict.severity = .failure
  -- A fatal step that failed, and a second revision, halt the run there and then; nothing else
  -- halts it.
  fatal_failure : ∀ i (record : StepRecord) (step : Step),
    r.records[i]? = some record → p.steps[i]? = some step →
    step.fatal = true → record.verdict.severity = .failure →
      i + 1 = r.records.length ∧ r.haltedAt = some i ∧ r.next = none
  conflict : ∀ i (record : StepRecord) c, r.records[i]? = some record → record.verdict = .conflict c →
    i + 1 = r.records.length ∧ r.haltedAt = some i ∧ r.next = none
  continues : ∀ i (record : StepRecord) (step : Step),
    r.records[i]? = some record → p.steps[i]? = some step →
    (step.fatal = false ∨ record.verdict.severity ≠ .failure) →
      (∀ c, record.verdict ≠ .conflict c) → r.haltedAt ≠ some i
  next_running : r.haltedAt = none → r.next = p.steps[r.records.length]?
  next_halted : r.haltedAt ≠ none → r.next = none
  -- A call is refused exactly when no step is pending, and then changes nothing.
  refused_iff : ∀ o, (r.record o).2 = .error .noPendingStep ↔ r.next = none
  refused : ∀ o, r.next = none → (r.record o).1 = r
  -- Every other call adds one record; only a failed fatal step or a second revision halts.
  accepted : ∀ o verdict, (r.record o).2 = .ok verdict → ∃ step, r.next = some step ∧
    (r.record o).1.records = r.records ++ [r.entry step verdict] ∧
    (r.record o).1.haltedAt =
      if verdict.severity = .failure ∧ step.fatal = true then some r.records.length else none
  conflicted : ∀ o c, (r.record o).2 = .error (.conflict c) → ∃ step, r.next = some step ∧
    (r.record o).1.records = r.records ++ [r.entry step (.conflict c)] ∧
    (r.record o).1.haltedAt = some r.records.length
  -- The summary counts every step once and reports the worst record.
  executed : r.summary.executed = r.records.length
  counted : r.summary.executed + r.summary.notRun = p.steps.length
  worst : ∀ s : Severity, r.summary.severity.exitCode ≤ s.exitCode ↔
    ∀ record ∈ r.records, record.verdict.severity.exitCode ≤ s.exitCode
  summary_haltedAt : r.summary.haltedAt = r.haltedAt
  summary_revision : r.summary.revision = r.slot.revision.getD "-1"

variable {p : Pipeline} {r : Run}

theorem Consistent.failed_fatal (consistent : r.Consistent p) {i : Nat} {record : StepRecord}
    {step : Step} (present : r.records[i]? = some record) (here : p.steps[i]? = some step)
    (ends : record.verdict.Ends step) :
    i + 1 = r.records.length ∧ r.haltedAt = some i ∧ r.next = none := by
  have halted := (consistent.halted_iff i record step present here).2 ends
  exact ⟨consistent.halted_last i halted, halted, next_of_halted halted⟩

theorem Consistent.orderly (consistent : r.Consistent p) : r.Orderly p where
  bounded := consistent.bounded
  placed := consistent.placed
  halted i halted := by
    have last := consistent.halted_last i halted
    obtain ⟨record, present⟩ : ∃ record, r.records[i]? = some record :=
      ⟨_, List.getElem?_eq_getElem (show i < r.records.length by omega)⟩
    obtain ⟨-, step, here, -⟩ := consistent.placed i record present
    have ends := (consistent.halted_iff i record step present here).1 halted
    exact ⟨last, record, present, ends.1⟩
  fatal_failure i record step present here fatal failed :=
    consistent.failed_fatal present here ⟨failed, .inl fatal⟩
  conflict i record c present same := by
    obtain ⟨-, step, here, -⟩ := consistent.placed i record present
    exact consistent.failed_fatal present here ⟨by rw [same]; rfl, .inr ⟨c, same⟩⟩
  continues i record step present here mild ordinary halted := by
    obtain ⟨failed, fatal | ⟨c, same⟩⟩ := (consistent.halted_iff i record step present here).1 halted
    · rcases mild with nonfatal | better
      · simp [fatal] at nonfatal
      · exact better failed
    · exact ordinary c same
  next_running := consistent.next_of_running
  next_halted halted := by
    obtain ⟨i, halted⟩ := Option.ne_none_iff_exists'.1 halted
    exact next_of_halted halted
  refused_iff o := by
    cases pending : r.next with
    | none => simp [record_of_next_none pending]
    | some step =>
      rw [record_of_next_some pending]
      simp [Step.settle_answer_ne_noPendingStep]
  refused o idle := by rw [record_of_next_none idle]
  accepted o verdict answer := by
    obtain ⟨step, slot, pending, judged⟩ := record_ok_iff.1 answer
    rw [record_of_next_some pending, Step.settle_of_ok judged]
    exact ⟨step, pending, rfl, by simp [Run.settled]⟩
  conflicted o c answer := by
    obtain ⟨step, pending, judged⟩ := record_conflict_iff.1 answer
    rw [record_of_next_some pending, Step.settle_of_error judged]
    exact ⟨step, pending, rfl, rfl⟩
  executed := rfl
  counted := by
    have bounded := consistent.bounded
    simp only [summary, consistent.pipeline]
    omega
  worst s := by
    rw [show r.summary.severity = .combineAll (r.records.map (·.verdict.severity)) from rfl,
      Severity.combineAll_exitCode_le_iff]
    simp
  summary_haltedAt := rfl
  summary_revision := rfl

/-- The books of a run are in order after any outcomes, also after those that come past its end, and
    it is finished after as many outcomes as its pipeline has steps. -/
theorem recordAll_orderly (p : Pipeline) (outcomes : List StepOutcome) :
    ((start p).recordAll outcomes).Orderly p ∧
      (p.steps.length ≤ outcomes.length → ((start p).recordAll outcomes).isFinished = true) := by
  have consistent := recordAll_consistent p outcomes
  refine ⟨consistent.orderly, fun enough => ?_⟩
  rw [isFinished, Option.isNone_iff_eq_none]
  rcases (recordAll_pace p outcomes).2 with finished | pace
  · exact finished
  · cases halted : ((start p).recordAll outcomes).haltedAt with
    | some i => exact next_of_halted halted
    | none =>
      rw [consistent.next_of_running halted, List.getElem?_eq_none_iff]
      omega

end RaceFarm.Run
