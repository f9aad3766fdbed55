import RaceFarm.Proofs.Benchmark.Accounts

namespace RaceFarm

namespace Text

/-- A text that holds whole lines only, so that what follows it begins a line. -/
def Ended (text : String) : Prop := text = "" ∨ ∃ body, text = body ++ "\n"

/-- The text with a carriage return before each line feed. -/
def withReturns (text : List Char) : List Char :=
  text.flatMap fun c => if c = '\n' then ['\r', '\n'] else [c]

theorem holds_modifyHead {lines pieces : List (List Char)} (same : List.Forall₂ Holds lines pieces)
    (c : Char) :
    List.Forall₂ Holds (lines.modifyHead (List.cons c)) (pieces.modifyHead (List.cons c)) := by
  cases same with
  | nil => exact .nil
  | cons first others => exact .cons (first.cons c) others

/-- A carriage return before a line feed ends up on the piece before it. -/
theorem withReturns_pieces (text : List Char) :
    List.Forall₂ Holds (text.splitOn '\n') ((withReturns text).splitOn '\n') := by
  induction text with
  | nil => exact .cons (.inl rfl) .nil
  | cons c rest ih =>
    by_cases feed : c = '\n'
    · subst feed
      have spelled : withReturns ('\n' :: rest) = '\r' :: '\n' :: withReturns rest := rfl
      rw [spelled, List.splitOn_cons_eq_if_modifyHead, List.splitOn_cons_eq_if_modifyHead,
        List.splitOn_cons_eq_if_modifyHead]
      exact .cons (.inr rfl) ih
    · have spelled : withReturns (c :: rest) = c :: withReturns rest := by
        simp [withReturns, feed]
      have other : (c == '\n') = false := by simpa using feed
      rw [spelled, List.splitOn_cons_eq_if_modifyHead, List.splitOn_cons_eq_if_modifyHead, other]
      exact holds_modifyHead ih c

end Text

namespace Monitor

theorem readings_withReturns (log : String) :
    readings (String.ofList (Text.withReturns log.toList)) = readings log := by
  rw [readings, String.toList_ofList]
  exact LogLine.map_ofChars_of_holds (Text.withReturns_pieces log.toList)

/-- The empty piece after the last line of a log is the only thing that is read at its seam. -/
theorem readings_append {first : String} (ended : Text.Ended first) :
    ∃ lines, readings first = lines ++ [.other] ∧
      ∀ second, readings (first ++ second) = lines ++ readings second := by
  rcases ended with rfl | ⟨body, rfl⟩
  · exact ⟨[], rfl, fun second => by rw [String.empty_append, List.nil_append]⟩
  · have closed : ∀ second,
        readings (body ++ "\n" ++ second) = readings body ++ readings second := by
      intro second
      have feed : "\n".toList = ['\n'] := by decide
      rw [readings, String.toList_append, String.toList_append, feed, List.append_assoc,
        List.singleton_append, List.splitOn_append_cons_self, List.map_append]
      rfl
    refine ⟨readings body, ?_, closed⟩
    rw [← String.append_empty (s := body ++ "\n"), closed]
    rfl

theorem addLog_addLog (m : Monitor) {first : String} (ended : Text.Ended first) (second : String) :
    (m.addLog first).addLog second = m.addLog (first ++ second) := by
  obtain ⟨lines, alone, joined⟩ := readings_append ended
  have skip : ∀ more, (m.addLines lines).addLines (.other :: more) =
      (m.addLines lines).addLines more := fun _ => rfl
  calc (m.addLog first).addLog second
      = (m.addLines (readings first)).addLines (readings second) := rfl
    _ = (m.addLines lines).addLines (.other :: readings second) := by
      rw [alone, addLines_addLines, addLines_addLines, List.append_assoc, List.singleton_append]
    _ = m.addLines (readings (first ++ second)) := by rw [skip, addLines_addLines, joined]
    _ = m.addLog (first ++ second) := rfl

theorem foldl_addLog_join (m : Monitor) {chunks : List String}
    (ended : ∀ chunk ∈ chunks, Text.Ended chunk) (last : String) :
    (chunks ++ [last]).foldl addLog m = m.addLog (String.join chunks ++ last) := by
  induction chunks generalizing m with
  | nil => rw [String.join_nil, String.empty_append]; rfl
  | cons chunk chunks ih =>
    obtain ⟨first, others⟩ := List.forall_mem_cons.1 ended
    rw [List.cons_append, List.foldl_cons, ih _ others, addLog_addLog _ first, String.join_cons,
      String.append_assoc]

/-- It makes no difference to a monitor how a log is cut up between its lines, nor whether the lines
    end in a carriage return. -/
theorem addLog_seamless (m : Monitor) (revision : String) :
    (∀ first second, Text.Ended first →
      (m.addLog first).addLog second = m.addLog (first ++ second) ∧
        ((m.addLog first).addLog second).report revision =
          (m.addLog (first ++ second)).report revision) ∧
    (∀ chunks last, (∀ chunk ∈ chunks, Text.Ended chunk) →
      (chunks ++ [last]).foldl addLog m = m.addLog (String.join chunks ++ last)) ∧
    ∀ log : String,
      m.addLog (String.ofList (Text.withReturns log.toList)) = m.addLog log ∧
        (m.addLog (String.ofList (Text.withReturns log.toList))).report revision =
          (m.addLog log).report revision := by
  have chunked : ∀ first second, Text.Ended first →
      (m.addLog first).addLog second = m.addLog (first ++ second) :=
    fun _ second ended => m.addLog_addLog ended second
  have returned : ∀ log : String,
      m.addLog (String.ofList (Text.withReturns log.toList)) = m.addLog log :=
    fun log => congrArg m.addLines (readings_withReturns log)
  refine ⟨fun first second ended => ?_, fun chunks last ended => m.foldl_addLog_join ended last,
    fun log => ?_⟩
  · exact ⟨chunked first second ended, by rw [chunked first second ended]⟩
  · exact ⟨returned log, by rw [returned log]⟩

theorem cut_before_result_seamless :
    let m := start ⟨"linux", "bigtest", .empty⟩
    let first := "*RESULT time: total= fast ms\n"
    let second := "RESULT time: total= 7 ms"
    Text.Ended first ∧ (m.addLog first).addLog second = m.addLog (first ++ second) ∧
      ([first, first] ++ [second]).foldl addLog m =
        m.addLog (String.join [first, first] ++ second) := by
  intro m first second
  have ended : Text.Ended first := .inr ⟨"*RESULT time: total= fast ms", by decide⟩
  obtain ⟨chunked, joined, -⟩ := addLog_seamless m "7"
  exact ⟨ended, (chunked first second ended).1,
    joined [first, first] second (by simp [ended])⟩

end Monitor

end RaceFarm
