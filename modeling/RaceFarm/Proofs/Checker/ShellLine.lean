import RaceFarm.Proofs.Checker.Tokens
import RaceFarm.Proofs.Text.Words

namespace RaceFarm

open Text

namespace CheckerConfig

/-- A word that chooses the checker's mode or a tool of pin, or ends the checker's arguments. -/
def isSteering (word : String) : Bool :=
  isModeFlag word || isPinFlag word || word == separator

def Idle (text : String) : Prop := ∀ word ∈ words text, isSteering word = false

instance (text : String) : Decidable (Idle text) :=
  inferInstanceAs (Decidable (∀ word ∈ words text, isSteering word = false))

/-- Every word of the text would be accepted as an argument of its own. -/
def WordsAccepted (frontend : Frontend) (text : String) : Prop :=
  ∀ word ∈ words text, argError frontend word = none

instance (frontend : Frontend) (text : String) : Decidable (WordsAccepted frontend text) :=
  inferInstanceAs (Decidable (∀ word ∈ words text, argError frontend word = none))

theorem Idle.accepted {text : String} (idle : Idle text) (frontend : Frontend) :
    WordsAccepted frontend text := by
  intro word listed
  have unsteering := idle word listed
  simp only [isSteering, Bool.or_eq_false_iff, beq_eq_false_iff_ne] at unsteering
  obtain ⟨⟨mode, pin⟩, plain⟩ := unsteering
  simp [argError, mode, pin, plain]

theorem wordsAccepted_of_solid {frontend : Frontend} {text : String} (solid : Solid text)
    (accepted : argError frontend text = none) : WordsAccepted frontend text := by
  intro word listed
  rwa [eq_of_mem_words solid listed]

variable (c : CheckerConfig) (binary text : String)

/-- One word chooses the checker's mode, and no word is for another frontend. -/
structure ProperWords (words : List String) : Prop where
  mode : words.filter isModeFlag = [c.mode.flag]
  pin : ∀ word ∈ words, word ∈ ["--dbg", "--opt", "--mt"] → c.frontend = .pin
  separator : "--" ∈ words → c.frontend = .pinWin

/-- Around the checker's own tokens, the words may be any that are accepted as arguments. -/
theorem properWords_iff (lead rest : List String) :
    c.ProperWords (lead ++ (c.ownTokens ++ rest)) ↔
      ∀ word ∈ lead ++ rest, argError c.frontend word = none := by
  rw [around_accepted_iff]
  constructor
  · rintro ⟨mode, pin, separator⟩
    refine ⟨?_, fun word placed => ⟨pin word placed, ?_⟩⟩
    · rw [List.countP_eq_length_filter, mode, List.length_singleton]
    · rintro rfl
      exact separator placed
  · rintro ⟨one, taken⟩
    have modeless : (lead ++ rest).filter isModeFlag = [] := by
      rw [List.filter_eq_nil_iff]
      simpa using (c.around_oneModeFlag_iff lead rest).1 one
    rw [List.filter_append, List.append_eq_nil_iff] at modeless
    refine ⟨?_, fun word placed => (taken word placed).1, fun placed => (taken _ placed).2 rfl⟩
    rw [around_modeFlags, modeless.1, modeless.2, List.nil_append]

/-- The shell line of a run that a text is appended to. -/
def shellLine : String :=
  " ".intercalate
    (c.launcher ++ [c.wrapper.getD c.defaultWrapper] ++ c.tokens binary ++ [text])

theorem command_of_append (appended : c.append = some text) :
    c.command binary = .shell (c.shellLine binary text) := by
  simp [command, appended, arguments_eq_tokens, shellLine]

theorem ownTokens_words : c.ownTokens.flatMap words = c.ownTokens := by
  have single : ∀ token ∈ c.ownTokens, words token = [token] := by
    intro token own
    have solid : Solid token ∧ token ≠ "" := by
      revert token
      unfold ownTokens
      cases c.frontend <;> cases c.debug <;> cases c.threaded <;> cases c.mode <;> decide
    exact words_of_solid solid.1 solid.2
  rw [List.flatMap_congr single, List.flatMap_singleton']

theorem shellLine_words :
    words (c.shellLine binary text) =
      (c.launcher ++ [c.wrapper.getD c.defaultWrapper] ++ c.extraArgs).flatMap words ++
        (c.ownTokens ++ (binary :: c.extraTestArgs ++ [text]).flatMap words) := by
  rw [shellLine, words_intercalate]
  simp [tokens, ownTokens_words]

theorem defaultWrapper_idle : Idle c.defaultWrapper := by
  unfold defaultWrapper
  cases c.frontend <;> cases c.debug <;> cases c.threaded <;> decide

/-- What stands around the caller's arguments on a shell line gives no orders to the checker. -/
structure Surrounded : Prop where
  launcher : ∀ token ∈ c.launcher, Idle token
  wrapper : ∀ wrapper, c.wrapper = some wrapper → Idle wrapper
  binary : Idle binary
  append : Idle text

variable {c binary text}

theorem Surrounded.shellLine_iff (surrounded : c.Surrounded binary text) :
    c.ProperWords (words (c.shellLine binary text)) ↔
      ∀ arg ∈ c.extraArgs ++ c.extraTestArgs, WordsAccepted c.frontend arg := by
  have wrapper : Idle (c.wrapper.getD c.defaultWrapper) := by
    cases given : c.wrapper with
    | none => exact c.defaultWrapper_idle
    | some wrapper => exact surrounded.wrapper wrapper given
  have launcher : ∀ token ∈ c.launcher, WordsAccepted c.frontend token :=
    fun token listed => (surrounded.launcher token listed).accepted _
  rw [shellLine_words, properWords_iff]
  simp only [List.forall_mem_append, List.forall_mem_flatMap, List.forall_mem_cons]
  constructor
  · rintro ⟨⟨-, first⟩, ⟨-, last⟩, -⟩
    exact ⟨first, last⟩
  · rintro ⟨first, last⟩
    exact ⟨⟨⟨launcher, wrapper.accepted _, nofun⟩, first⟩, ⟨surrounded.binary.accepted _, last⟩,
      surrounded.append.accepted _, nofun⟩

theorem invoke_shellLine {i : Invocation} (appended : c.append = some text)
    (accepted : c.invoke binary = .ok i) (surrounded : c.Surrounded binary text) :
    ∃ line, i.command = .shell line ∧
      (c.ProperWords (words line) ↔
        ∀ arg ∈ c.extraArgs ++ c.extraTestArgs, WordsAccepted c.frontend arg) ∧
      ((∀ arg ∈ c.extraArgs ++ c.extraTestArgs, Solid arg) → c.ProperWords (words line)) := by
  obtain ⟨valid, rfl⟩ := invoke_eq_ok_iff.1 accepted
  refine ⟨_, c.command_of_append binary text appended, surrounded.shellLine_iff, fun solid => ?_⟩
  rw [surrounded.shellLine_iff]
  intro arg given
  exact wordsAccepted_of_solid (solid arg given) ((validate_eq_ok_iff.1 valid).1 arg given)

end CheckerConfig

namespace RaceVerifier

variable (v : RaceVerifier) (c : CheckerConfig)

/-- Of a pass's arguments, only the test filter can have words that are refused. -/
theorem passes_accepted_iff (solid : Solid v.logFile) :
    ∀ pass ∈ [v.firstPass c, v.secondPass c],
      ((∀ arg ∈ pass.extraArgs ++ pass.extraTestArgs,
          CheckerConfig.WordsAccepted pass.frontend arg) ↔
        CheckerConfig.WordsAccepted c.frontend v.testFilter) := by
  have expected : CheckerConfig.WordsAccepted c.frontend "--show-expected-races" :=
    CheckerConfig.wordsAccepted_of_solid (by decide)
      (CheckerConfig.argError_of_letter c.frontend 's' "how-expected-races" rfl (by decide))
  have exitcode : CheckerConfig.WordsAccepted c.frontend "--error_exitcode=1" :=
    CheckerConfig.wordsAccepted_of_solid (by decide) (CheckerConfig.argError_exitcode c.frontend)
  have log : CheckerConfig.WordsAccepted c.frontend ("--race-verifier=" ++ v.logFile) :=
    CheckerConfig.wordsAccepted_of_solid (Solid.append (by decide) solid)
      (CheckerConfig.argError_of_letter c.frontend 'r' ("ace-verifier=" ++ v.logFile)
        (by simp [String.toList_append]) (by decide))
  simp only [List.forall_mem_cons, List.forall_mem_append, firstPass, secondPass, expected,
    exitcode, log, List.not_mem_nil, false_imp_iff, implies_true, true_and, and_true]

end RaceVerifier

namespace CheckerConfig

/-- A shell line is proper exactly if each word of the caller's arguments is one that would be
    accepted by itself. Arguments without blanks are such words, and of the race verifier's
    arguments only the test filter can be anything else. -/
theorem shellLine_proper_iff (c : CheckerConfig) (v : RaceVerifier) (binary : String) :
    (∀ text i, c.append = some text → c.invoke binary = .ok i → c.Surrounded binary text →
      ∃ line, i.command = .shell line ∧
        (c.ProperWords (words line) ↔
          ∀ arg ∈ c.extraArgs ++ c.extraTestArgs, WordsAccepted c.frontend arg) ∧
        ((∀ arg ∈ c.extraArgs ++ c.extraTestArgs, Solid arg) → c.ProperWords (words line))) ∧
    (Solid v.logFile → ∀ pass ∈ [v.firstPass c, v.secondPass c], ∀ text i,
      pass.append = some text → pass.invoke binary = .ok i → pass.Surrounded binary text →
      ∃ line, i.command = .shell line ∧
        (pass.ProperWords (words line) ↔ WordsAccepted c.frontend v.testFilter) ∧
        (Solid v.testFilter → pass.ProperWords (words line))) := by
  refine ⟨fun _ _ => invoke_shellLine, ?_⟩
  intro solid pass listed text i appended accepted surrounded
  obtain ⟨line, runs, proper_iff, -⟩ := invoke_shellLine appended accepted surrounded
  rw [v.passes_accepted_iff c solid pass listed] at proper_iff
  refine ⟨line, runs, proper_iff, fun plain => proper_iff.2 ?_⟩
  have filtered : pass.frontend = c.frontend ∧ v.testFilter ∈ pass.extraTestArgs := by
    simp only [List.mem_cons, List.not_mem_nil, or_false] at listed
    rcases listed with rfl | rfl <;> exact ⟨rfl, List.mem_singleton_self _⟩
  apply wordsAccepted_of_solid plain
  rw [← filtered.1]
  have valid := (invoke_eq_ok_iff.1 accepted).1
  exact (validate_eq_ok_iff.1 valid).1 _ (List.mem_append_right _ filtered.2)

theorem spaced_filter_proper :
    let c := { plain .pin .hybrid with
      threaded := true, launcher := ["alarm", "-l", "60"], append := some "2>&1"
      extraTestArgs := ["--gtest_filter=\"A.* -B.*\" --gtest_repeat=2"] }
    let pass := RaceVerifier.stock.secondPass (plain .pinWin .phb)
    (∃ i line, c.invoke "t" = .ok i ∧ i.command = .shell line ∧ c.Surrounded "t" "2>&1" ∧
      c.ProperWords (words line)) ∧
    ∃ i line, pass.invoke "t.exe" = .ok i ∧ i.command = .shell line ∧
      pass.Surrounded "t.exe" "2>&1" ∧ pass.ProperWords (words line) := by
  intro c pass
  constructor
  · have accepted : c.invoke "t" = .ok ⟨c.command "t", c.env, c.label⟩ := rfl
    have surrounded : c.Surrounded "t" "2>&1" := ⟨by decide, nofun, by decide, by decide⟩
    have args : ∀ arg ∈ c.extraArgs ++ c.extraTestArgs, WordsAccepted c.frontend arg := by decide
    obtain ⟨line, runs, proper_iff, -⟩ :=
      (shellLine_proper_iff c .stock "t").1 "2>&1" _ rfl accepted surrounded
    exact ⟨_, line, accepted, runs, surrounded, proper_iff.2 args⟩
  · have accepted : pass.invoke "t.exe" = .ok ⟨pass.command "t.exe", pass.env, pass.label⟩ := rfl
    have surrounded : pass.Surrounded "t.exe" "2>&1" := ⟨nofun, nofun, by decide, by decide⟩
    have solid : Solid RaceVerifier.stock.logFile ∧ Solid RaceVerifier.stock.testFilter := by decide
    have second : pass ∈ [RaceVerifier.stock.firstPass (plain .pinWin .phb), pass] :=
      List.mem_cons_of_mem _ (List.mem_singleton_self _)
    obtain ⟨line, runs, -, proper⟩ := (shellLine_proper_iff (plain .pinWin .phb) .stock "t.exe").2
      solid.1 pass second "2>&1" _ rfl accepted surrounded
    exact ⟨_, line, accepted, runs, surrounded, proper solid.2⟩

/-- An argument that is accepted as a whole can still add a mode flag to the shell line. -/
theorem spaced_argument_adds_mode :
    let c := { plain .valgrind .hybrid with
      extraArgs := ["-v --pure-happens-before=yes"], append := some "2>&1" }
    ∃ i line, c.invoke "foo" = .ok i ∧ i.command = .shell line ∧ c.Surrounded "foo" "2>&1" ∧
      (words line).filter isModeFlag =
        ["--pure-happens-before=yes", "--pure-happens-before=no"] := by
  intro c
  have surrounded : c.Surrounded "foo" "2>&1" := ⟨nofun, nofun, by decide, by decide⟩
  refine ⟨⟨c.command "foo", c.env, c.label⟩, c.shellLine "foo" "2>&1", rfl,
    c.command_of_append "foo" "2>&1" rfl, surrounded, ?_⟩
  rw [shellLine_words, around_modeFlags]
  decide

end CheckerConfig

end RaceFarm
