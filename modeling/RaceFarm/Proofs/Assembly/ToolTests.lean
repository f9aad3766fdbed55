import RaceFarm.Proofs.Assembly.Calls

namespace RaceFarm

/-- The entry for a row and a column of a table that is listed row by row. -/
theorem getElem?_table {α β γ : Type} (f : α → β → γ) {rows : List α} {columns : List β} {k i : Nat}
    {row : α} {column : β} (listed : rows[k]? = some row) (listed' : columns[i]? = some column) :
    (rows.flatMap fun row => columns.map (f row))[k * columns.length + i]? =
      some (f row column) := by
  obtain ⟨bound, -⟩ := List.getElem?_eq_some_iff.1 listed'
  induction rows generalizing k with
  | nil => cases listed
  | cons first rows ih =>
    rw [List.flatMap_cons]
    cases k with
    | zero =>
      obtain rfl := Option.some.inj listed
      rw [Nat.zero_mul, Nat.zero_add, List.getElem?_append_left (by rwa [List.length_map]),
        List.getElem?_map, listed', Option.map_some]
    | succ k =>
      have place : (k + 1) * columns.length + i - columns.length = k * columns.length + i := by
        rw [Nat.succ_mul]
        omega
      have later : columns.length ≤ (k + 1) * columns.length + i := by
        rw [Nat.succ_mul]
        omega
      rw [List.getElem?_append_right (by rwa [List.length_map]), List.length_map, place]
      exact ih listed

namespace Step

def toolPrograms : List (String × String) :=
  [("suppressions_test", "suppressions"), ("thread_sanitizer_test", "thread_sanitizer")]

def NamesWindows (target : String) : Prop := "windows".toList <:+: target.toList

instance (target : String) : Decidable (NamesWindows target) :=
  decidable_of_iff _ Text.mentions_iff

def ownSeparator (target : String) : String := if NamesWindows target then "\\" else "/"

theorem pathSeparator_eq (target : String) : pathSeparator target = ownSeparator target := by
  unfold pathSeparator ownSeparator
  by_cases windows : NamesWindows target
  · rw [if_pos windows, if_pos (Text.mentions_iff.2 windows)]
  · rw [if_neg windows, if_neg (mt Text.mentions_iff.1 windows)]

theorem ownSeparator_eq_iff {target other : String} :
    ownSeparator target = ownSeparator other ↔ (NamesWindows target ↔ NamesWindows other) := by
  have distinct : "\\" ≠ "/" := by decide
  unfold ownSeparator
  by_cases windows : NamesWindows target <;> by_cases windows' : NamesWindows other <;>
    simp [windows, windows', distinct, distinct.symm]

def toolPath (separator binary target : String) : String :=
  separator.intercalate ["tsan", "bin", target ++ "-" ++ binary]

theorem toolPath_inj {separator separator' binary target : String}
    (same : toolPath separator binary target = toolPath separator' binary target) :
    separator = separator' := by
  have chars := congrArg String.toList same
  simp only [toolPath, String.toList_intercalate, List.map_cons, List.map_nil,
    List.intercalate_cons_cons, List.intercalate_singleton, List.append_assoc,
    List.append_cancel_left_eq] at chars
  -- The separator stands twice in each path, so both are of one length and can be compared.
  have lengths := congrArg List.length chars
  simp only [List.length_append] at lengths
  exact String.toList_inj.1 (List.append_inj chars (by omega)).1

/-- The step runs a gtest binary for a target, by a path with this separator. -/
structure RunsTool (s : Step) (program : String × String) (target separator : String) : Prop where
  kind : s.kind? = some .test
  command : s.command? = some (.shell (toolPath separator program.1 target))
  description : s.description = "testing " ++ program.2 ++ " (" ++ target ++ ")"
  descriptionDone : s.descriptionDone = "test " ++ program.2 ++ " (" ++ target ++ ")"

theorem toolTest_runsTool (separator : String) (program : String × String) (target : String) :
    (toolTest separator program target).RunsTool program target separator where
  kind := rfl
  command := by
    simp [toolTest, toolPath, command?, run, ofAction, String.intercalate_cons_cons,
      String.append_assoc]
  description := rfl
  descriptionDone := rfl

theorem RunsTool.separator_unique {s : Step} {program : String × String}
    {target separator separator' : String} (runs : s.RunsTool program target separator)
    (runs' : s.RunsTool program target separator') : separator = separator' := by
  have same := runs.command.symm.trans runs'.command
  injection same with same
  injection same with same
  exact toolPath_inj same

/-- One step for each binary and target: for every binary in turn the targets in their order, each
    by a path with the separator given for it. -/
structure ToolSuite (targets : List String) (separator : String → String) (steps : List Step) :
    Prop where
  length : steps.length = 2 * targets.length
  runs : ∀ k program, toolPrograms[k]? = some program → ∀ i target, targets[i]? = some target →
    ∃ s, steps[k * targets.length + i]? = some s ∧ s.RunsTool program target (separator target)

variable (first : String) (others : List String)

theorem toolTests_suite :
    ToolSuite (first :: others) (fun _ => ownSeparator first) (toolTests first others) where
  length := Assembly.toolTests_length first others
  runs k program listed i target listed' := by
    refine ⟨_, getElem?_table (toolTest (pathSeparator first)) listed listed', ?_⟩
    rw [pathSeparator_eq]
    exact toolTest_runsTool _ program target

variable {first others} {targets : List String} {steps : List Step} {separator : String → String}

theorem ToolSuite.separator_unique {separator' : String → String}
    (suite : ToolSuite targets separator steps) (suite' : ToolSuite targets separator' steps)
    {target : String} (listed : target ∈ targets) : separator target = separator' target := by
  obtain ⟨i, found⟩ := List.mem_iff_getElem?.1 listed
  obtain ⟨s, placed, runs⟩ := suite.runs 0 _ rfl i target found
  obtain ⟨s', placed', runs'⟩ := suite'.runs 0 _ rfl i target found
  obtain rfl := Option.some.inj (placed.symm.trans placed')
  exact runs.separator_unique runs'

theorem ToolSuite.congr {separator' : String → String} (suite : ToolSuite targets separator steps)
    (same : ∀ target ∈ targets, separator target = separator' target) :
    ToolSuite targets separator' steps where
  length := suite.length
  runs k program listed i target listed' := by
    rw [← same target (List.mem_of_getElem? listed')]
    exact suite.runs k program listed i target listed'

end Step

namespace Assembly

open Step

variable (a : Assembly) (first : String) (others : List String)

/-- All paths have the separator of the first target. A step is as its own target wants it exactly
    if that target and the first agree on naming windows, and all are exactly if all targets do. -/
theorem addToolTests_separators :
    ∃ added, a.addToolTests (first :: others) = (a.addSteps added, .ok ()) ∧
      ToolSuite (first :: others) (fun _ => ownSeparator first) added ∧
      (∀ k program, toolPrograms[k]? = some program → ∀ i target,
        (first :: others)[i]? = some target → ∃ s,
          added[k * (first :: others).length + i]? = some s ∧
          (s.RunsTool program target (ownSeparator target) ↔
            (NamesWindows target ↔ NamesWindows first))) ∧
      (ToolSuite (first :: others) ownSeparator added ↔
        ∀ target ∈ others, (NamesWindows target ↔ NamesWindows first)) := by
  have suite := toolTests_suite first others
  refine ⟨toolTests first others, rfl, suite, ?_, ?_⟩
  · intro k program listed i target listed'
    obtain ⟨s, placed, runs⟩ := suite.runs k program listed i target listed'
    refine ⟨s, placed, ?_⟩
    rw [← ownSeparator_eq_iff]
    exact ⟨fun own => own.separator_unique runs, fun same => same ▸ runs⟩
  · constructor
    · intro own target listed
      exact ownSeparator_eq_iff.1 (own.separator_unique suite (List.mem_cons_of_mem _ listed))
    · intro agree
      refine suite.congr fun target listed => ?_
      rcases List.mem_cons.1 listed with rfl | later
      · rfl
      · exact (ownSeparator_eq_iff.2 (agree target later)).symm

theorem windows_after_linux_slashes :
    let targets := ["amd64-linux-debug", "x86-windows-debug"]
    ∃ added, ((start "t").addToolTests targets) = ((start "t").addSteps added, .ok ()) ∧
      NamesWindows "x86-windows-debug" ∧
      (added[1]?.bind command?) = some (.shell "tsan/bin/x86-windows-debug-suppressions_test") ∧
      ¬ToolSuite targets ownSeparator added := by
  intro targets
  refine ⟨toolTests "amd64-linux-debug" ["x86-windows-debug"], rfl, by decide, by decide, ?_⟩
  intro own
  obtain ⟨s, placed, runs⟩ := own.runs 0 _ rfl 1 _ rfl
  obtain rfl := Option.some.inj placed
  exact absurd runs.command (by decide)

end Assembly

end RaceFarm
