import Mathlib.Data.List.Forall2
import RaceFarm.Proofs.Run.Publication

namespace RaceFarm

/-- The outcomes may differ in whatever the step does not look at, and in the revision it reads. -/
structure Step.Alike (s : Step) (o o' : StepOutcome) : Prop where
  shell : o.shell = o'.shell
  processed : ∀ spec, s.completion = some (.processLog spec) → o.log = o'.log
  captured : s.completion = some .captureRevision →
    o.log.toList.all Text.isBlank = o'.log.toList.all Text.isBlank

structure Pipeline.Alike (p : Pipeline) (outcomes outcomes' : List StepOutcome) : Prop where
  length : outcomes.length = outcomes'.length
  step : ∀ (i : Nat) (step : Step) (o o' : StepOutcome), p.steps[i]? = some step →
    outcomes[i]? = some o → outcomes'[i]? = some o' → step.Alike o o'

/-- Result texts that differ at most in revisions. -/
inductive TextsAlike : Option Completion → List String → List String → Prop where
  | silent {completion : Option Completion} : TextsAlike completion [] []
  | log {spec : BenchmarkSpec} (revision revision' : String) (lines : List String) :
      TextsAlike (some (.processLog spec)) (("r" ++ revision) :: lines) (("r" ++ revision') :: lines)
  | conflict (c c' : RevisionConflict) :
      TextsAlike (some .captureRevision) [c.message] [c'.message]

structure Verdict.Alike (completion : Option Completion) (v v' : Verdict) : Prop where
  shell : v.shell = v'.shell
  log : v.log = v'.log
  severity : v.severity = v'.severity
  reportLink : v.reportLink = v'.reportLink
  texts : TextsAlike completion v.resultText v'.resultText

inductive AnswersAlike : Except RunError Verdict → Except RunError Verdict → Prop where
  | accepted {completion : Option Completion} {v v' : Verdict} (alike : v.Alike completion v') :
      AnswersAlike (.ok v) (.ok v')
  | refused : AnswersAlike (.error .noPendingStep) (.error .noPendingStep)
  | conflicted (c c' : RevisionConflict) :
      AnswersAlike (.error (.conflict c)) (.error (.conflict c'))

theorem Verdict.Alike.shellOnly {completion : Option Completion} (shell : Severity) :
    (Verdict.shellOnly shell).Alike completion (.shellOnly shell) :=
  ⟨rfl, rfl, rfl, rfl, .silent⟩

theorem Verdict.Alike.judge (o : StepOutcome) (spec : BenchmarkSpec) (revision revision' : String) :
    (o.judge (some spec) revision).Alike (some (.processLog spec))
      (o.judge (some spec) revision') :=
  ⟨rfl, rfl, rfl, rfl, .log revision revision' _⟩

theorem Verdict.Alike.conflict (c c' : RevisionConflict) :
    (Verdict.conflict c).Alike (some .captureRevision) (.conflict c') :=
  ⟨rfl, rfl, rfl, rfl, .conflict c c'⟩

structure Settlement.Alike (completion : Option Completion) (s s' : Settlement) : Prop where
  verdict : s.verdict.Alike completion s'.verdict
  published : s.slot.revision.isSome = s'.slot.revision.isSome
  halts : s.halts = s'.halts
  answer : AnswersAlike s.answer s'.answer

theorem none_or_some_of_isSome_eq {α : Type} {a b : Option α} (same : a.isSome = b.isSome) :
    (a = none ∧ b = none) ∨ ∃ x y, a = some x ∧ b = some y := by
  cases a <;> cases b <;> simp_all

namespace Step

variable {s : Step} {o o' : StepOutcome} {slot slot' : RevisionSlot}

theorem Alike.offers (alike : s.Alike o o') (kind : s.completion = some .captureRevision) :
    o.captured.isSome = o'.captured.isSome := by
  rw [← offer_of_captureRevision kind, ← offer_of_captureRevision kind, offer, offer, alike.shell,
    alike.captured kind]
  split <;> rfl

theorem settle_alike_of_ok {verdict verdict' : Verdict} {after after' : RevisionSlot}
    (judged : s.judge o slot = .ok (verdict, after))
    (judged' : s.judge o' slot' = .ok (verdict', after'))
    (alike : verdict.Alike s.completion verdict')
    (published : after.revision.isSome = after'.revision.isSome) :
    (s.settle o slot).Alike s.completion (s.settle o' slot') := by
  rw [settle_of_ok judged, settle_of_ok judged']
  exact ⟨alike, published, by simp only [alike.severity], .accepted alike⟩

theorem settle_alike_of_error {c c' : RevisionConflict} (kind : s.completion = some .captureRevision)
    (judged : s.judge o slot = .error c) (judged' : s.judge o' slot' = .error c')
    (published : slot.revision.isSome = slot'.revision.isSome) :
    (s.settle o slot).Alike s.completion (s.settle o' slot') := by
  rw [settle_of_error judged, settle_of_error judged', kind]
  exact ⟨.conflict c c', published, rfl, .conflicted c c'⟩

theorem settle_capture_alike (alike : s.Alike o o') (kind : s.completion = some .captureRevision)
    (published : slot.revision.isSome = slot'.revision.isSome) :
    (s.settle o slot).Alike s.completion (s.settle o' slot') := by
  have quiet : (Verdict.shellOnly o.shell).Alike s.completion (.shellOnly o'.shell) := by
    rw [alike.shell]
    exact .shellOnly _
  rcases none_or_some_of_isSome_eq (alike.offers kind) with
    ⟨blank, blank'⟩ | ⟨revision, revision', read, read'⟩
  · have judged : s.judge o slot = .ok (.shellOnly o.shell, slot) := by
      rw [judge_captureRevision kind, blank]
    have judged' : s.judge o' slot' = .ok (.shellOnly o'.shell, slot') := by
      rw [judge_captureRevision kind, blank']
    exact settle_alike_of_ok judged judged' quiet published
  · rcases none_or_some_of_isSome_eq published with
      ⟨unset, unset'⟩ | ⟨existing, existing', held, held'⟩
    · have judged : s.judge o slot = .ok (.shellOnly o.shell, ⟨some revision⟩) := by
        rw [judge_captureRevision kind, read, unset]
      have judged' : s.judge o' slot' = .ok (.shellOnly o'.shell, ⟨some revision'⟩) := by
        rw [judge_captureRevision kind, read', unset']
      exact settle_alike_of_ok judged judged' quiet rfl
    -- Both runs hold a revision here, so both conflict, whatever the revisions are.
    · have judged : s.judge o slot = .error ⟨existing, revision⟩ := by
        rw [judge_captureRevision kind, read, held]
      have judged' : s.judge o' slot' = .error ⟨existing', revision'⟩ := by
        rw [judge_captureRevision kind, read', held']
      exact settle_alike_of_error kind judged judged' published

/-- Neither the revision held nor a log that is not processed decides anything about a step. -/
theorem settle_alike (alike : s.Alike o o')
    (published : slot.revision.isSome = slot'.revision.isSome) :
    (s.settle o slot).Alike s.completion (s.settle o' slot') := by
  cases kind : s.completion with
  | none =>
    rw [← kind]
    apply settle_alike_of_ok (judge_plain kind) (judge_plain kind) _ published
    rw [alike.shell]
    exact .shellOnly _
  | some completion =>
    rw [← kind]
    cases completion with
    | processLog spec =>
      have same : o = o' := by
        cases o
        cases o'
        rw [StepOutcome.mk.injEq]
        exact ⟨alike.shell, alike.processed spec kind⟩
      apply settle_alike_of_ok (judge_processLog kind) (judge_processLog kind) _ published
      rw [kind, same]
      exact .judge o' spec _ _
    | captureRevision => exact settle_capture_alike alike kind published

end Step

/-- Records that differ at most in the revisions of their result texts. -/
structure StepRecord.Alike (p : Pipeline) (record record' : StepRecord) : Prop where
  index : record.index = record'.index
  description : record.description = record'.description
  verdict : ∃ step : Step, p.steps[record.index]? = some step ∧
    record.verdict.Alike step.completion record'.verdict

namespace Run

structure Alike (p : Pipeline) (r r' : Run) : Prop where
  pipeline : r.pipeline = p ∧ r'.pipeline = p
  published : r.slot.revision.isSome = r'.slot.revision.isSome
  haltedAt : r.haltedAt = r'.haltedAt
  records : List.Forall₂ (StepRecord.Alike p) r.records r'.records

variable {p : Pipeline} {r r' : Run} {o o' : StepOutcome}

theorem Alike.start (p : Pipeline) : Alike p (start p) (start p) :=
  ⟨⟨rfl, rfl⟩, rfl, rfl, .nil⟩

theorem Alike.next (alike : Alike p r r') : r.next = r'.next := by
  rw [Run.next, Run.next, alike.haltedAt, alike.pipeline.1, alike.pipeline.2,
    alike.records.length_eq]

theorem Alike.severity (alike : Alike p r r') : r.summary.severity = r'.summary.severity := by
  have each : List.Forall₂ (· = ·) (r.records.map (·.verdict.severity))
      (r'.records.map (·.verdict.severity)) := by
    rw [List.forall₂_map_left_iff, List.forall₂_map_right_iff]
    refine alike.records.imp fun record record' same => ?_
    obtain ⟨step, -, verdict⟩ := same.verdict
    exact verdict.severity
  rw [List.forall₂_eq_eq_eq] at each
  simp only [summary, each]

theorem Alike.settled {step : Step} {s s' : Settlement} (alike : Alike p r r')
    (pending : r.next = some step) (same : s.Alike step.completion s') :
    Alike p (r.settled step s) (r'.settled step s') := by
  have here := (next_eq_some_iff.1 pending).2
  rw [alike.pipeline.1] at here
  have count := alike.records.length_eq
  refine ⟨alike.pipeline, same.published, ?_, ?_⟩
  · simp only [Run.settled, same.halts, count]
  · have entry : StepRecord.Alike p (r.entry step s.verdict) (r'.entry step s'.verdict) :=
      ⟨count, rfl, step, here, same.verdict⟩
    exact List.rel_append alike.records (.cons entry .nil)

theorem Alike.record (alike : Alike p r r')
    (told : ∀ step, r.next = some step → step.Alike o o') :
    Alike p (r.record o).1 (r'.record o').1 ∧
      AnswersAlike (r.record o).2 (r'.record o').2 := by
  have same := alike.next
  cases pending : r.next with
  | none =>
    rw [pending] at same
    rw [record_of_next_none pending, record_of_next_none same.symm]
    exact ⟨alike, .refused⟩
  | some step =>
    rw [pending] at same
    rw [record_of_next_some pending, record_of_next_some same.symm]
    have settlement := Step.settle_alike (told step pending) alike.published
    exact ⟨alike.settled pending settlement, settlement.answer⟩

variable {outcomes outcomes' : List StepOutcome}

theorem recordAll_take_succ {n : Nat} (told : outcomes[n]? = some o) :
    r.recordAll (outcomes.take (n + 1)) = ((r.recordAll (outcomes.take n)).record o).1 := by
  rw [List.take_add_one, told, Option.toList_some, recordAll_concat]

theorem pending_of_take {n : Nat} {step : Step} (told : outcomes[n]? = some o)
    (pending : ((start p).recordAll (outcomes.take n)).next = some step) :
    p.steps[n]? = some step := by
  obtain ⟨here, count⟩ := pending_place rfl pending
  obtain ⟨inside, -⟩ := List.getElem?_eq_some_iff.1 told
  rwa [count, List.length_take_of_le (Nat.le_of_lt inside)] at here

theorem recordAll_alike (alike : p.Alike outcomes outcomes') (n : Nat) :
    Alike p ((start p).recordAll (outcomes.take n)) ((start p).recordAll (outcomes'.take n)) := by
  induction n with
  | zero => exact .start p
  | succ n ih =>
    cases told : outcomes[n]? with
    | none =>
      have past := List.getElem?_eq_none_iff.1 told
      have past' := alike.length ▸ past
      rw [List.take_of_length_le past, List.take_of_length_le past'] at ih
      rwa [List.take_of_length_le (Nat.le_succ_of_le past),
        List.take_of_length_le (Nat.le_succ_of_le past')]
    | some o =>
      obtain ⟨inside, -⟩ := List.getElem?_eq_some_iff.1 told
      have told' := List.getElem?_eq_getElem (alike.length ▸ inside)
      rw [recordAll_take_succ told, recordAll_take_succ told']
      exact (ih.record fun step pending =>
        alike.step n step _ _ (pending_of_take told pending) told told').1

/-- What a run reports on its steps depends on the revision in nothing but texts that name it, and
    on logs that nobody processes in nothing at all. -/
theorem recordAll_noninterference (alike : p.Alike outcomes outcomes') (n : Nat) :
    let r := (start p).recordAll (outcomes.take n)
    let r' := (start p).recordAll (outcomes'.take n)
    r.records.length = r'.records.length ∧ r.haltedAt = r'.haltedAt ∧
    r.summary.severity = r'.summary.severity ∧
    List.Forall₂ (StepRecord.Alike p) r.records r'.records ∧
    ∀ o o', outcomes[n]? = some o → outcomes'[n]? = some o' →
      AnswersAlike (r.record o).2 (r'.record o').2 := by
  intro r r'
  have same : Alike p r r' := recordAll_alike alike n
  refine ⟨same.records.length_eq, same.haltedAt, same.severity, same.records, ?_⟩
  intro o o' told told'
  exact (same.record fun step pending =>
    alike.step n step _ _ (pending_of_take told pending) told told').2

theorem second_capture_alike :
    let p : Pipeline :=
      ⟨[.readMarker, .clobber, .benchmark ⟨"linux", "small", .empty⟩ (.argv ["run"]), .readMarker]⟩
    let outcomes : List StepOutcome :=
      [⟨.success, "1"⟩, ⟨.success, "gone"⟩, ⟨.success, "RESULT a: b= 1 ms"⟩, ⟨.success, "2"⟩]
    let outcomes' : List StepOutcome :=
      [⟨.success, "7\n"⟩, ⟨.success, ""⟩, ⟨.success, "RESULT a: b= 1 ms"⟩, ⟨.success, "7"⟩]
    p.Alike outcomes outcomes' ∧
      ((start p).recordAll (outcomes.take 4)).haltedAt =
        ((start p).recordAll (outcomes'.take 4)).haltedAt := by
  intro p outcomes outcomes'
  have alike : p.Alike outcomes outcomes' := by
    refine ⟨rfl, ?_⟩
    rintro (_ | _ | _ | _ | i) step o o' here told told' <;>
      cases here <;> cases told <;> cases told'
    · exact ⟨rfl, nofun, fun _ => by decide⟩
    · exact ⟨rfl, nofun, nofun⟩
    · exact ⟨rfl, fun _ _ => rfl, nofun⟩
    · exact ⟨rfl, nofun, fun _ => by decide⟩
  exact ⟨alike, (recordAll_noninterference alike 4).2.1⟩

end Run

end RaceFarm
