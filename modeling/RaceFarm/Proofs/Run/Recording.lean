import Mathlib.Data.List.Induction
import RaceFarm.Run

namespace RaceFarm

/-- The verdict of a step that tried to publish a second revision. -/
def Verdict.conflict (c : RevisionConflict) : Verdict :=
  { Verdict.shellOnly .failure with resultText := [c.message] }

/-- A verdict that ends the run of its step's pipeline. -/
def Verdict.Ends (v : Verdict) (step : Step) : Prop :=
  v.severity = .failure ∧ (step.fatal = true ∨ ∃ c, v = .conflict c)

/-- What the outcome of a pending step comes to. -/
structure Settlement where
  verdict : Verdict
  slot : RevisionSlot
  halts : Bool
  answer : Except RunError Verdict

namespace Step

def settle (s : Step) (o : StepOutcome) (slot : RevisionSlot) : Settlement :=
  match s.judge o slot with
  | .error c => { verdict := .conflict c, slot, halts := true, answer := .error (.conflict c) }
  | .ok (verdict, slot) =>
    { verdict, slot, halts := verdict.severity = .failure ∧ s.fatal, answer := .ok verdict }

variable {s : Step} {o : StepOutcome} {slot : RevisionSlot}

theorem settle_of_error {c : RevisionConflict} (judged : s.judge o slot = .error c) :
    s.settle o slot =
      { verdict := .conflict c, slot, halts := true, answer := .error (.conflict c) } := by
  simp only [settle, judged]

theorem settle_of_ok {verdict : Verdict} {slot' : RevisionSlot}
    (judged : s.judge o slot = .ok (verdict, slot')) :
    s.settle o slot =
      { verdict, slot := slot', halts := verdict.severity = .failure ∧ s.fatal
        answer := .ok verdict } := by
  simp only [settle, judged]

theorem judge_processLog {spec : BenchmarkSpec} (kind : s.completion = some (.processLog spec)) :
    s.judge o slot = .ok (o.judge (some spec) slot.orUnknown, slot) := by
  simp only [judge, kind]

theorem judge_captureRevision (kind : s.completion = some .captureRevision) :
    s.judge o slot =
      match o.captured, slot.revision with
      | none, _ => .ok (.shellOnly o.shell, slot)
      | some revision, none => .ok (.shellOnly o.shell, ⟨some revision⟩)
      | some attempted, some existing => .error { existing, attempted } := by
  simp only [judge, kind]
  cases o.captured with
  | none => rfl
  | some revision => cases held : slot.revision <;> simp [RevisionSlot.publish, held, Except.map]

theorem judge_plain (kind : s.completion = none) :
    s.judge o slot = .ok (.shellOnly o.shell, slot) := by
  simp only [judge, kind]

theorem judge_ok_verdict {verdict : Verdict} {slot' : RevisionSlot}
    (judged : s.judge o slot = .ok (verdict, slot')) :
    verdict = .shellOnly o.shell ∨
      ∃ spec, s.completion = some (.processLog spec) ∧
        verdict = o.judge (some spec) slot.orUnknown := by
  cases kind : s.completion with
  | none =>
    rw [judge_plain kind] at judged
    cases judged
    exact .inl rfl
  | some completion =>
    cases completion with
    | captureRevision =>
      rw [judge_captureRevision kind] at judged
      split at judged <;> cases judged <;> exact .inl rfl
    | processLog spec =>
      rw [judge_processLog kind] at judged
      cases judged
      exact .inr ⟨spec, rfl, rfl⟩

theorem judge_ok_ne_conflict {verdict : Verdict} {slot' : RevisionSlot}
    (judged : s.judge o slot = .ok (verdict, slot')) (c : RevisionConflict) :
    verdict ≠ .conflict c := by
  intro same
  -- Only a conflict has a result text without a link to a report.
  rcases judge_ok_verdict judged with rfl | ⟨spec, -, rfl⟩
  · have text := congrArg Verdict.resultText same
    simp [Verdict.shellOnly, Verdict.conflict] at text
  · have link := congrArg Verdict.reportLink same
    simp [StepOutcome.judge, Verdict.withLog, Monitor.report, Verdict.shellOnly,
      Verdict.conflict] at link

theorem settle_halts_iff :
    (s.settle o slot).halts = true ↔ (s.settle o slot).verdict.Ends s := by
  cases judged : s.judge o slot with
  | error c =>
    rw [settle_of_error judged]
    exact ⟨fun _ => ⟨rfl, .inr ⟨c, rfl⟩⟩, fun _ => rfl⟩
  | ok accepted =>
    obtain ⟨verdict, slot'⟩ := accepted
    have ordinary := judge_ok_ne_conflict judged
    rw [settle_of_ok judged]
    simp [Verdict.Ends, ordinary]

theorem settle_answer_ne_noPendingStep : (s.settle o slot).answer ≠ .error .noPendingStep := by
  cases judged : s.judge o slot with
  | error c => simp [settle_of_error judged]
  | ok accepted => simp [settle_of_ok judged]

end Step

namespace Run

def entry (r : Run) (step : Step) (verdict : Verdict) : StepRecord :=
  { index := r.records.length, description := step.descriptionDone, verdict }

def settled (r : Run) (step : Step) (s : Settlement) : Run :=
  { r with
    slot := s.slot
    records := r.records ++ [r.entry step s.verdict]
    haltedAt := if s.halts then some r.records.length else none }

variable {r : Run} {step : Step} {o : StepOutcome}

theorem settled_getElem?_eq_some_iff {s : Settlement} {i : Nat} {record : StepRecord} :
    (r.settled step s).records[i]? = some record ↔
      r.records[i]? = some record ∨ i = r.records.length ∧ record = r.entry step s.verdict := by
  rcases Nat.lt_trichotomy i r.records.length with earlier | rfl | later
  · simp [settled, List.getElem?_append_left earlier, Nat.ne_of_lt earlier]
  · simp only [settled, List.getElem?_concat_length, Option.some.injEq, Nat.le_refl,
      List.getElem?_eq_none, reduceCtorEq, true_and, false_or]
    exact eq_comm
  · have absent : r.records[i]? = none := List.getElem?_eq_none (Nat.le_of_lt later)
    have beyond : (r.settled step s).records[i]? = none := by
      apply List.getElem?_eq_none
      rw [settled, List.length_append, List.length_singleton]
      exact later
    simp [absent, beyond, Nat.ne_of_gt later]

theorem next_eq_some_iff :
    r.next = some step ↔
      r.haltedAt = none ∧ r.pipeline.steps[r.records.length]? = some step := by
  unfold next
  cases r.haltedAt <;> simp

theorem record_of_next_none (idle : r.next = none) : r.record o = (r, .error .noPendingStep) := by
  simp only [record, idle]

theorem record_of_next_some (pending : r.next = some step) :
    r.record o =
      (r.settled step (step.settle o r.slot), (step.settle o r.slot).answer) := by
  have running := (next_eq_some_iff.1 pending).1
  simp only [record, pending]
  cases judged : step.judge o r.slot with
  | error c => simp [Step.settle_of_error judged, settled, entry, append, halt, Verdict.conflict]
  | ok accepted =>
    obtain ⟨verdict, slot⟩ := accepted
    rw [Step.settle_of_ok judged]
    by_cases ends : verdict.severity = .failure ∧ step.fatal = true
    · simp [settled, entry, append, halt, ends]
    · simp [settled, entry, append, ends, running]

theorem record_ok_iff {verdict : Verdict} :
    (r.record o).2 = .ok verdict ↔
      ∃ step slot, r.next = some step ∧ step.judge o r.slot = .ok (verdict, slot) := by
  cases pending : r.next with
  | none => simp [record_of_next_none pending]
  | some step =>
    rw [record_of_next_some pending]
    cases judged : step.judge o r.slot with
    | error c => simp [Step.settle_of_error judged, judged]
    | ok accepted => simp [Step.settle_of_ok judged, judged, Prod.ext_iff]

theorem record_conflict_iff {c : RevisionConflict} :
    (r.record o).2 = .error (.conflict c) ↔
      ∃ step, r.next = some step ∧ step.judge o r.slot = .error c := by
  cases pending : r.next with
  | none => simp [record_of_next_none pending]
  | some step =>
    rw [record_of_next_some pending]
    cases judged : step.judge o r.slot with
    | error c => simp [Step.settle_of_error judged, judged]
    | ok accepted => simp [Step.settle_of_ok judged, judged]

theorem recordAll_concat (r : Run) (outcomes : List StepOutcome) (o : StepOutcome) :
    r.recordAll (outcomes ++ [o]) = ((r.recordAll outcomes).record o).1 := by
  simp only [recordAll, List.foldl_append, List.foldl_cons, List.foldl_nil]

/-- Induction over the calls of a run: a call finds no pending step, or settles the pending one. -/
theorem recordAll_induction {p : Pipeline} {motive : List StepOutcome → Run → Prop}
    (initial : motive [] (start p))
    (refused : ∀ outcomes r o, r = (start p).recordAll outcomes → motive outcomes r →
      r.next = none → motive (outcomes ++ [o]) r)
    (settles : ∀ outcomes r o step, r = (start p).recordAll outcomes → motive outcomes r →
      r.next = some step → motive (outcomes ++ [o]) (r.settled step (step.settle o r.slot)))
    (outcomes : List StepOutcome) : motive outcomes ((start p).recordAll outcomes) := by
  induction outcomes using List.reverseRecOn with
  | nil => exact initial
  | append_singleton outcomes o ih =>
    rw [recordAll_concat]
    cases pending : ((start p).recordAll outcomes).next with
    | none =>
      rw [record_of_next_none pending]
      exact refused _ _ _ rfl ih pending
    | some step =>
      rw [record_of_next_some pending]
      exact settles _ _ _ _ rfl ih pending

/-- Until a run is finished, every call has added its record. -/
theorem recordAll_pace (p : Pipeline) (outcomes : List StepOutcome) :
    ((start p).recordAll outcomes).records.length ≤ outcomes.length ∧
      (((start p).recordAll outcomes).next = none ∨
        ((start p).recordAll outcomes).records.length = outcomes.length) := by
  apply recordAll_induction (motive := fun outcomes r => r.records.length ≤ outcomes.length ∧
    (r.next = none ∨ r.records.length = outcomes.length))
  · exact ⟨Nat.le_refl _, .inr rfl⟩
  · intro outcomes r o _ pace idle
    exact ⟨by simpa using Nat.le_succ_of_le pace.1, .inl idle⟩
  · intro outcomes r o step _ pace pending
    have exact_pace : r.records.length = outcomes.length := by simpa [pending] using pace.2
    simp [settled, exact_pace]

end Run

end RaceFarm
