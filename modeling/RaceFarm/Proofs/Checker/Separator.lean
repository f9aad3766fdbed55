import RaceFarm.Proofs.Checker.Validation

namespace RaceFarm.CheckerConfig

/-- The windows wrapper keeps the tokens before the first separator for the checker and passes
    those after it on to the test binary. -/
structure Divides (tokens kept passedOn : List String) : Prop where
  spelled : tokens = kept ++ separator :: passedOn
  first : separator ∉ kept

variable {c : CheckerConfig} {binary : String}

/-- What every frontend is told after its own flags. -/
def sharedFlags (c : CheckerConfig) : List String :=
  [c.mode.flag, "--suppressions=unittest/racecheck_unittest.supp",
    "--ignore=unittest/racecheck_unittest.ignore"]

theorem separator_notMem_sharedFlags : separator ∉ c.sharedFlags := by
  unfold sharedFlags
  cases c.mode <;> decide

theorem modeFlag_mem_sharedFlags : c.mode.flag ∈ c.sharedFlags := List.mem_cons_self

theorem modeFlag_notMem_extraArgs (valid : c.validate = .ok ()) : c.mode.flag ∉ c.extraArgs := by
  intro given
  have accepted := (validate_eq_ok_iff.1 valid).1 _ (List.mem_append_left _ given)
  have modeless := (argError_eq_none_iff.1 accepted).1
  have mode : isModeFlag c.mode.flag = true := by cases c.mode <;> decide
  rw [mode] at modeless
  cases modeless

section Windows

variable (windows : c.frontend = .pinWin)

include windows

theorem arguments_of_windows :
    c.arguments binary =
      c.extraArgs ++ (c.sharedFlags ++ separator :: binary :: c.extraTestArgs) := by
  simp [arguments, flags, sharedFlags, windows]

theorem divides_of_notMem (plain : separator ∉ c.extraArgs) :
    Divides (c.arguments binary) (c.extraArgs ++ c.sharedFlags) (binary :: c.extraTestArgs) where
  spelled := by rw [arguments_of_windows windows, List.append_assoc]
  first := by
    rw [List.mem_append, not_or]
    exact ⟨plain, separator_notMem_sharedFlags⟩

theorem divides_of_mem {lead more : List String} (spelled : c.extraArgs = lead ++ separator :: more)
    (first : separator ∉ lead) :
    Divides (c.arguments binary) lead
      (more ++ (c.sharedFlags ++ separator :: binary :: c.extraTestArgs)) where
  spelled := by rw [arguments_of_windows windows, spelled, List.append_assoc, List.cons_append]
  first := first

/-- The checker hears its mode exactly if the caller put no separator among its arguments. Then the
    test binary follows the first separator; else the test binary is passed what the checker was
    to be told. -/
theorem separator_divides {i : Invocation} (plain : c.append = none)
    (accepted : c.invoke binary = .ok i) :
    ∃ tokens kept passedOn,
      i.command = .argv (c.launcher ++ c.wrapper.getD c.defaultWrapper :: tokens) ∧
      Divides tokens kept passedOn ∧
      (c.mode.flag ∈ kept ↔ separator ∉ c.extraArgs) ∧
      (separator ∉ c.extraArgs →
        kept = c.extraArgs ++ c.sharedFlags ∧ passedOn = binary :: c.extraTestArgs) ∧
      (separator ∈ c.extraArgs →
        kept <+: c.extraArgs ∧
          c.sharedFlags ++ separator :: binary :: c.extraTestArgs <:+ passedOn) := by
  obtain ⟨valid, rfl⟩ := invoke_eq_ok_iff.1 accepted
  have runs : c.command binary =
      .argv (c.launcher ++ c.wrapper.getD c.defaultWrapper :: c.arguments binary) := by
    simp only [command, plain]
  by_cases early : separator ∈ c.extraArgs
  · obtain ⟨lead, more, spelled, first⟩ := List.eq_append_cons_of_mem early
    have before : lead <+: c.extraArgs := by
      rw [spelled]
      exact List.prefix_append _ _
    have unheard : c.mode.flag ∉ lead :=
      fun heard => modeFlag_notMem_extraArgs valid (before.subset heard)
    refine ⟨_, _, _, runs, divides_of_mem windows spelled first, ?_, ?_, ?_⟩
    · exact iff_of_false unheard (fun absent => absent early)
    · exact fun absent => absurd early absent
    · exact fun _ => ⟨before, List.suffix_append _ _⟩
  · refine ⟨_, _, _, runs, divides_of_notMem windows early, ?_, fun _ => ⟨rfl, rfl⟩, ?_⟩
    · exact iff_of_true (List.mem_append_right _ modeFlag_mem_sharedFlags) early
    · exact fun given => absurd given early

end Windows

theorem filtered_windows_run_divides :
    let c := { plain .pinWin .phb with
      extraArgs := ["--error_exitcode=1"], extraTestArgs := ["--", "--gtest_filter=Foo.*"] }
    ∃ i, c.invoke "t.exe" = .ok i ∧ ∃ tokens kept,
      i.command = .argv (c.launcher ++ c.defaultWrapper :: tokens) ∧
      Divides tokens kept ["t.exe", "--", "--gtest_filter=Foo.*"] ∧ c.mode.flag ∈ kept := by
  intro c
  have accepted : c.invoke "t.exe" = .ok ⟨c.command "t.exe", c.env, c.label⟩ := rfl
  obtain ⟨tokens, kept, passedOn, runs, divided, heard, later, -⟩ :=
    separator_divides rfl rfl accepted
  have plain : separator ∉ c.extraArgs := by decide
  obtain ⟨-, rfl⟩ := later plain
  exact ⟨_, accepted, tokens, kept, runs, divided, heard.2 plain⟩

/-- A separator among the checker's arguments is accepted, and the mode goes to the test binary. -/
theorem early_separator_diverts_mode :
    let c := { plain .pinWin .hybrid with extraArgs := ["--"] }
    ∃ i tokens passedOn, c.frontend = .pinWin ∧ c.append = none ∧ c.invoke "t.exe" = .ok i ∧
      i.command = .argv (c.launcher ++ c.defaultWrapper :: tokens) ∧ Divides tokens [] passedOn ∧
      passedOn.head? = some c.mode.flag ∧ c.mode.flag ≠ "t.exe" := by
  intro c
  exact ⟨⟨c.command "t.exe", c.env, c.label⟩, _, _, rfl, rfl, rfl, rfl, ⟨rfl, List.not_mem_nil⟩,
    rfl, by decide⟩

end RaceFarm.CheckerConfig
