import RaceFarm.Proofs.Run.Publication

namespace RaceFarm

theorem Severity.exitCode_le_warnings_iff (s : Severity) :
    s.exitCode ≤ warnings.exitCode ↔ s ≠ failure := by
  cases s <;> decide

theorem Step.capturesRevision_of_offer {s : Step} {o : StepOutcome} {revision : String}
    (offered : s.offer o = some revision) : s.completion = some .captureRevision := by
  by_contra other
  rw [offer_of_other other] at offered
  cases offered

namespace Pipeline

def FailFast (p : Pipeline) : Prop :=
  ∀ step ∈ p.steps, step.fatal = true

/-- The step at `k` captures the revision of a run, and no other step does. -/
structure CapturesAt (p : Pipeline) (k : Nat) : Prop where
  inside : k < p.steps.length
  only : ∀ i (step : Step), p.steps[i]? = some step →
    (step.completion = some .captureRevision ↔ i = k)

def UploadsAfter (p : Pipeline) (k : Nat) : Prop :=
  ∀ i (step : Step), p.steps[i]? = some step → step.destination? ≠ none → k < i

variable {p : Pipeline}

theorem exists_offer_of_revisionAfter {outcomes : List StepOutcome} {n : Nat} {revision : String}
    (held : p.revisionAfter outcomes n = some revision) :
    ∃ i step o, i < n ∧ p.steps[i]? = some step ∧ step.offer o = some revision := by
  obtain ⟨⟨step, o⟩, told, offered⟩ := List.exists_of_findSome?_eq_some held
  obtain ⟨i, here⟩ := List.mem_iff_getElem?.1 told
  rw [List.getElem?_take] at here
  split at here
  · rename_i earlier
    exact ⟨i, step, o, earlier, (List.getElem?_zip_eq_some.1 here).1, offered⟩
  · cases here

end Pipeline

namespace Run

variable {p : Pipeline}

theorem record_ne_conflict {k : Nat} (captures : p.CapturesAt k) (outcomes : List StepOutcome)
    (o : StepOutcome) (c : RevisionConflict) :
    (((start p).recordAll outcomes).record o).2 ≠ .error (.conflict c) := by
  intro answer
  obtain ⟨step, pending, judged⟩ := record_conflict_iff.1 answer
  obtain ⟨held, offered⟩ := Step.judge_conflict_iff.1 judged
  rw [recordAll_revision] at held
  obtain ⟨i, first, o', earlier, at_i, offered'⟩ := Pipeline.exists_offer_of_revisionAfter held
  have here := (pending_place rfl pending).1
  -- The step that offered the revision at hand and the pending one would both be the step at `k`.
  have old := (captures.only i first at_i).1 (Step.capturesRevision_of_offer offered')
  have new := (captures.only _ step here).1 (Step.capturesRevision_of_offer offered)
  omega

variable {r : Run}

theorem Orderly.fails_last (orderly : r.Orderly p) (failFast : p.FailFast) {i : Nat}
    {record : StepRecord} (present : r.records[i]? = some record)
    (failed : record.verdict.severity = .failure) :
    i + 1 = r.records.length ∧ r.haltedAt = some i ∧ r.next = none := by
  obtain ⟨-, step, here, -⟩ := orderly.placed i record present
  exact orderly.fatal_failure i record step present here
    (failFast step (List.mem_of_getElem? here)) failed

theorem Orderly.haltedAt_iff (orderly : r.Orderly p) (failFast : p.FailFast) (i : Nat) :
    r.haltedAt = some i ↔
      ∃ record, r.records[i]? = some record ∧ record.verdict.severity = .failure := by
  constructor
  · intro halted
    exact (orderly.halted i halted).2
  · rintro ⟨record, present, failed⟩
    exact (orderly.fails_last failFast present failed).2.1

theorem Orderly.severity_iff (orderly : r.Orderly p) (failFast : p.FailFast) :
    r.summary.severity = .failure ↔ r.summary.haltedAt ≠ none := by
  have better : r.summary.severity ≠ .failure ↔
      ∀ record ∈ r.records, record.verdict.severity ≠ .failure := by
    simpa only [Severity.exitCode_le_warnings_iff] using orderly.worst .warnings
  rw [orderly.summary_haltedAt, Option.ne_none_iff_exists']
  simp only [orderly.haltedAt_iff failFast]
  apply not_iff_not.1 (better.trans _)
  constructor
  · rintro sound ⟨i, record, present, failed⟩
    exact sound record (List.mem_of_getElem? present) failed
  · intro running record listed failed
    obtain ⟨i, present⟩ := List.mem_iff_getElem?.1 listed
    exact running ⟨i, record, present, failed⟩

theorem Orderly.sound_before (orderly : r.Orderly p) (failFast : p.FailFast) {step : Step}
    (pending : r.next = some step) {k : Nat} (before : k < r.records.length) :
    ∃ record, r.records[k]? = some record ∧ record.verdict.severity ≠ .failure := by
  refine ⟨r.records[k], List.getElem?_eq_getElem before, ?_⟩
  intro failed
  have idle := (orderly.fails_last failFast (List.getElem?_eq_getElem before) failed).2.2
  rw [idle] at pending
  cases pending

/-- The answers to outcomes that a run is told in turn. -/
def answers (r : Run) : List StepOutcome → List (Except RunError Verdict)
  | [] => []
  | o :: outcomes => (r.record o).2 :: (r.record o).1.answers outcomes

/-- The first `count` answers of a run that has not met a conflict: the verdicts on record, and
    refusals once it is finished or halted. -/
def recordedAnswers (r : Run) (count : Nat) : List (Except RunError Verdict) :=
  r.records.map (.ok ·.verdict) ++
    List.replicate (count - r.records.length) (.error .noPendingStep)

theorem answers_concat (r : Run) (outcomes : List StepOutcome) (o : StepOutcome) :
    r.answers (outcomes ++ [o]) = r.answers outcomes ++ [((r.recordAll outcomes).record o).2] := by
  induction outcomes generalizing r with
  | nil => rfl
  | cons first outcomes ih =>
    rw [List.cons_append, answers, ih, answers, List.cons_append]
    rfl

theorem judge_of_capturesAt {k : Nat} (captures : p.CapturesAt k) (outcomes : List StepOutcome)
    {step : Step} (pending : ((start p).recordAll outcomes).next = some step) (o : StepOutcome) :
    ∃ verdict slot,
      step.judge o ((start p).recordAll outcomes).slot = .ok (verdict, slot) := by
  cases judged : step.judge o ((start p).recordAll outcomes).slot with
  | error c =>
    have answer := record_conflict_iff.2 ⟨step, pending, judged⟩
    exact absurd answer (record_ne_conflict captures outcomes o c)
  | ok accepted => exact ⟨accepted.1, accepted.2, rfl⟩

/-- The run after it has given a verdict on the pending step, which halts it if it is a failure. -/
def judged (r : Run) (step : Step) (verdict : Verdict) (slot : RevisionSlot) : Run :=
  { r with
    slot
    records := r.records ++ [r.entry step verdict]
    haltedAt := if verdict.severity = .failure then some r.records.length else none }

theorem record_of_fatal {r : Run} {step : Step} (pending : r.next = some step)
    (fatal : step.fatal = true) {o : StepOutcome} {verdict : Verdict} {slot : RevisionSlot}
    (accepted : step.judge o r.slot = .ok (verdict, slot)) :
    r.record o = (r.judged step verdict slot, .ok verdict) := by
  rw [record_of_next_some pending, Step.settle_of_ok accepted]
  simp [settled, judged, fatal]

theorem recordAll_answers {k : Nat} (captures : p.CapturesAt k) (outcomes : List StepOutcome) :
    (start p).answers outcomes =
      ((start p).recordAll outcomes).recordedAnswers outcomes.length := by
  apply recordAll_induction (motive := fun outcomes r =>
    (start p).answers outcomes = r.recordedAnswers outcomes.length)
  · rfl
  · intro outcomes r o reached ih idle
    have pace := (recordAll_pace p outcomes).1
    rw [← reached] at pace
    rw [answers_concat, ih, ← reached, record_of_next_none idle, recordedAnswers, recordedAnswers,
      List.length_append, List.length_singleton, Nat.succ_sub pace, List.replicate_succ',
      List.append_assoc]
  · intro outcomes r o step reached ih pending
    have count := (pending_place reached pending).2
    obtain ⟨verdict, slot, accepted⟩ :
        ∃ verdict slot, step.judge o r.slot = .ok (verdict, slot) := by
      rw [reached] at pending ⊢
      exact judge_of_capturesAt captures outcomes pending o
    rw [answers_concat, ih, ← reached, record_of_next_some pending, Step.settle_of_ok accepted]
    simp [recordedAnswers, settled, entry, count]

/-- What holds of a run that has been told `outcomes`, stops at its first failure, and captures its
    revision at step `k`, before it uploads anything. -/
structure StopsEarly (p : Pipeline) (k : Nat) (outcomes : List StepOutcome) (r : Run) : Prop where
  -- The calls were answered with the verdicts on record, and refused after these.
  answered : (start p).answers outcomes = r.recordedAnswers outcomes.length
  next_running : r.haltedAt = none → r.next = p.steps[r.records.length]?
  -- The verdict on a pending step is recorded, and the run is halted there and then exactly if it
  -- is a failure.
  recorded : ∀ step o, r.next = some step → ∃ verdict slot,
    step.judge o r.slot = .ok (verdict, slot) ∧
      r.record o = (r.judged step verdict slot, .ok verdict)
  refused : ∀ o, r.next = none → r.record o = (r, .error .noPendingStep)
  never_conflicts : ∀ o c, (r.record o).2 ≠ .error (.conflict c)
  -- It halts at a failure, which is the first because nothing is recorded after it.
  halts_at : ∀ i, r.haltedAt = some i ↔
    ∃ record, r.records[i]? = some record ∧ record.verdict.severity = .failure ∧
      ∀ j < i, ∀ earlier, r.records[j]? = some earlier → earlier.verdict.severity ≠ .failure
  halts_for_good : ∀ i, r.haltedAt = some i → i + 1 = r.records.length ∧ r.next = none
  failure_iff : r.summary.severity = .failure ↔ r.summary.haltedAt ≠ none
  captured : ∀ step, r.next = some step → step.destination? ≠ none →
    ∃ record, r.records[k]? = some record ∧ record.verdict.severity ≠ .failure

theorem recordAll_stopsEarly {k : Nat} (failFast : p.FailFast) (captures : p.CapturesAt k)
    (uploads : p.UploadsAfter k) (outcomes : List StepOutcome) :
    ((start p).recordAll outcomes).StopsEarly p k outcomes := by
  have orderly := (recordAll_consistent p outcomes).orderly
  refine ⟨recordAll_answers captures outcomes, orderly.next_running, ?_,
    fun o idle => record_of_next_none idle, record_ne_conflict captures outcomes, ?_, ?_,
    orderly.severity_iff failFast, ?_⟩
  · intro step o pending
    obtain ⟨verdict, slot, accepted⟩ := judge_of_capturesAt captures outcomes pending o
    have here := (pending_place rfl pending).1
    have fatal := failFast step (List.mem_of_getElem? here)
    exact ⟨verdict, slot, accepted, record_of_fatal pending fatal accepted⟩
  · intro i
    rw [orderly.haltedAt_iff failFast]
    constructor
    · rintro ⟨record, present, failed⟩
      refine ⟨record, present, failed, ?_⟩
      intro j before earlier present' failed'
      have last := (orderly.fails_last failFast present failed).1
      have last' := (orderly.fails_last failFast present' failed').1
      omega
    · rintro ⟨record, present, failed, -⟩
      exact ⟨record, present, failed⟩
  · intro i halted
    exact ⟨(orderly.halted i halted).1, next_of_halted halted⟩
  · intro step pending uploaded
    have here := (pending_place rfl pending).1
    exact orderly.sound_before failFast pending (uploads _ step here uploaded)

end Run

end RaceFarm
