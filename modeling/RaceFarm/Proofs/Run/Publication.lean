import Mathlib.Data.List.TakeWhile
import RaceFarm.Proofs.Run.Bookkeeping

namespace RaceFarm

theorem Text.trimEnd_eq_nil_iff {text : List Char} :
    trimEnd text = [] ↔ text.all isBlank = true := by
  simp [trimEnd, List.dropWhile_eq_nil_iff]

/-- The revision that a step's outcome offers to its run: the log of a capturing step that did not
    fail, without the blanks at its end, unless it is all blank. -/
def Step.offer (s : Step) (o : StepOutcome) : Option String :=
  if s.completion = some .captureRevision ∧ o.shell ≠ .failure ∧
      ¬o.log.toList.all Text.isBlank then
    some (String.ofList (Text.trimEnd o.log.toList))
  else none

/-- The first revision on offer among the first `n` steps of a pipeline. -/
def Pipeline.revisionAfter (p : Pipeline) (outcomes : List StepOutcome) (n : Nat) :
    Option String :=
  ((p.steps.zip outcomes).take n).findSome? fun (step, o) => step.offer o

namespace Step

variable {s : Step} {o : StepOutcome} {slot : RevisionSlot}

theorem offer_of_captureRevision (kind : s.completion = some .captureRevision) :
    s.offer o = o.captured := by
  unfold offer StepOutcome.captured parseRevision
  by_cases failed : o.shell = .failure
  · simp [failed]
  · by_cases blank : o.log.toList.all Text.isBlank = true
    · rw [if_neg (fun offered => offered.2.2 blank), if_neg failed,
        if_pos (Text.trimEnd_eq_nil_iff.2 blank)]
    · rw [if_pos ⟨kind, failed, blank⟩, if_neg failed,
        if_neg (fun empty => blank (Text.trimEnd_eq_nil_iff.1 empty))]

theorem offer_of_other (kind : s.completion ≠ some .captureRevision) : s.offer o = none := by
  simp [offer, kind]

theorem judge_ok_slot {verdict : Verdict} {slot' : RevisionSlot}
    (judged : s.judge o slot = .ok (verdict, slot')) :
    slot'.revision = slot.revision.or (s.offer o) := by
  cases kind : s.completion with
  | none =>
    rw [judge_plain kind] at judged
    cases judged
    simp [offer_of_other, kind]
  | some completion =>
    cases completion with
    | processLog spec =>
      rw [judge_processLog kind] at judged
      cases judged
      simp [offer_of_other, kind]
    | captureRevision =>
      rw [offer_of_captureRevision kind]
      rw [judge_captureRevision kind] at judged
      cases captured : o.captured with
      | none =>
        simp only [captured, Except.ok.injEq, Prod.mk.injEq] at judged
        rw [← judged.2, Option.or_none]
      | some revision =>
        cases held : slot.revision with
        | none =>
          simp only [captured, held, Except.ok.injEq, Prod.mk.injEq] at judged
          rw [← judged.2, Option.none_or]
        | some existing => simp [captured, held] at judged

theorem judge_conflict_iff {c : RevisionConflict} :
    s.judge o slot = .error c ↔ slot.revision = some c.existing ∧ s.offer o = some c.attempted := by
  cases kind : s.completion with
  | none => simp [judge_plain kind, offer_of_other, kind]
  | some completion =>
    cases completion with
    | processLog spec => simp [judge_processLog kind, offer_of_other, kind]
    | captureRevision =>
      rw [offer_of_captureRevision kind, judge_captureRevision kind]
      obtain ⟨existing, attempted⟩ := c
      cases o.captured <;> cases slot.revision <;> simp

theorem settle_slot :
    (s.settle o slot).slot.revision = slot.revision.or (s.offer o) := by
  cases judged : s.judge o slot with
  | error c =>
    rw [settle_of_error judged, (judge_conflict_iff.1 judged).1]
    rfl
  | ok accepted =>
    rw [settle_of_ok judged]
    exact judge_ok_slot judged

end Step

namespace Pipeline

variable {p : Pipeline} {outcomes : List StepOutcome}

theorem revisionAfter_concat_of_le {n : Nat} (told : n ≤ outcomes.length) (o : StepOutcome) :
    p.revisionAfter (outcomes ++ [o]) n = p.revisionAfter outcomes n := by
  simp only [revisionAfter, List.zip, List.take_zipWith, List.take_append_of_le_length told]

theorem revisionAfter_concat {step : Step} (here : p.steps[outcomes.length]? = some step)
    (o : StepOutcome) :
    p.revisionAfter (outcomes ++ [o]) (outcomes.length + 1) =
      (p.revisionAfter outcomes outcomes.length).or (step.offer o) := by
  have last : (p.steps.zip (outcomes ++ [o]))[outcomes.length]? = some (step, o) := by
    simp [List.getElem?_zip_eq_some, here]
  rw [← revisionAfter_concat_of_le (Nat.le_refl _) o]
  simp [revisionAfter, List.take_add_one, last, List.findSome?_append]

end Pipeline

namespace Run

theorem recordAll_revision (p : Pipeline) (outcomes : List StepOutcome) :
    ((start p).recordAll outcomes).slot.revision =
      p.revisionAfter outcomes ((start p).recordAll outcomes).records.length := by
  apply recordAll_induction (motive := fun outcomes r =>
    r.slot.revision = p.revisionAfter outcomes r.records.length)
  · rfl
  · intro outcomes r o reached ih idle
    have told := (recordAll_pace p outcomes).1
    rw [← reached] at told
    rw [ih, Pipeline.revisionAfter_concat_of_le told]
  · intro outcomes r o step reached ih pending
    obtain ⟨here, same_length⟩ := pending_place reached pending
    rw [same_length] at here ih
    calc (r.settled step (step.settle o r.slot)).slot.revision
        = r.slot.revision.or (step.offer o) := Step.settle_slot
      _ = p.revisionAfter (outcomes ++ [o]) (outcomes.length + 1) := by
          rw [ih, Pipeline.revisionAfter_concat here]
      _ = _ := by simp [settled, same_length]

end Run

end RaceFarm
