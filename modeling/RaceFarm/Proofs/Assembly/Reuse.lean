import RaceFarm.Proofs.Assembly.Provenance
import RaceFarm.Proofs.Build.Command

namespace RaceFarm

theorem BuildRequest.command_eq_iff_parameters {r s : BuildRequest} {b d : Build}
    (accepted : r.build = .ok b) (accepted' : s.build = .ok d) :
    b.command = d.command ↔ b.variant = d.variant ∧ r.parameters = s.parameters := by
  rw [command_eq_iff accepted accepted', parameters, parameters, BuildParameters.mk.injEq]

namespace Assembly

variable (base : String) (orders : List Order)

/-- A build step of the session makes the binary of `v` by running `command`. -/
def BuiltBy (v : Variant) (command : Command) : Prop :=
  ∃ i step, Builds base orders i v ∧
    ((start base).performAll orders).steps[i]? = some step ∧ step.command? = some command

variable {base orders}

theorem buildStep_kind (b : Build) : (buildStep b).kind? = some .compile := rfl

theorem buildStep_command (b : Build) : (buildStep b).command? = some b.command := rfl

theorem finished_lookup {k : Nat} {v : Variant} {parameters : BuildParameters}
    (found : (before base orders k).built.lookup v = some parameters) :
    ((start base).performAll orders).built.lookup v = some parameters := by
  rw [← before_max_length k]
  exact before_keeps_built (Nat.le_max_left k orders.length) found

theorem Builds.request {i : Nat} {v : Variant} (builds : Builds base orders i v) :
    ∃ (r : BuildRequest) (b : Build), r.build = .ok b ∧ b.variant = v ∧
      ((start base).performAll orders).steps[i]? = some (buildStep b) ∧
      ((start base).performAll orders).built.lookup v = some r.parameters := by
  obtain ⟨k, r, b, added, accepted, same, -⟩ := builds
  obtain ⟨b', accepted', -, -, -, found, -⟩ := added.build
  obtain rfl : b = b' := Except.ok.inj (accepted.symm.trans accepted')
  rw [same] at found
  exact ⟨r, b, accepted, same, added.found, finished_lookup found⟩

theorem BuiltBy.request {v : Variant} {command : Command} (built : BuiltBy base orders v command) :
    ∃ (r : BuildRequest) (b : Build), r.build = .ok b ∧ b.variant = v ∧ b.command = command ∧
      ((start base).performAll orders).built.lookup v = some r.parameters := by
  obtain ⟨i, step, builds, present, runs⟩ := built
  obtain ⟨r, b, accepted, same, here, found⟩ := builds.request
  obtain rfl : step = buildStep b := Option.some.inj (present.symm.trans here)
  exact ⟨r, b, accepted, same, Option.some.inj runs, found⟩

theorem builtBy_of_lookup {v : Variant} {parameters : BuildParameters}
    (found : ((start base).performAll orders).built.lookup v = some parameters) :
    ∃ (r : BuildRequest) (b : Build), r.build = .ok b ∧ b.variant = v ∧ r.parameters = parameters ∧
      BuiltBy base orders v b.command := by
  have cached := found
  rw [← before_of_length_le (Nat.le_refl orders.length)] at cached
  obtain ⟨i, -, builds⟩ := builds_of_lookup cached
  obtain ⟨r, b, accepted, same, here, found'⟩ := builds.request
  exact ⟨r, b, accepted, same, Option.some.inj (found'.symm.trans found),
    i, buildStep b, builds, here, rfl⟩

section Accepted

variable (base orders) {r : BuildRequest} {b : Build} (accepted : r.build = .ok b)

include accepted

theorem builtBy_same_iff :
    (∃ v, BuiltBy base orders v b.command) ↔
      ((start base).performAll orders).built.lookup b.variant = some r.parameters := by
  constructor
  · rintro ⟨v, built⟩
    obtain ⟨s, d, accepted', rfl, runs, found⟩ := built.request
    obtain ⟨variant, parameters⟩ :=
      (BuildRequest.command_eq_iff_parameters accepted' accepted).1 runs
    rw [← variant, ← parameters, found]
  · intro found
    obtain ⟨s, d, accepted', variant, parameters, built⟩ := builtBy_of_lookup found
    rw [(BuildRequest.command_eq_iff_parameters accepted' accepted).2 ⟨variant, parameters⟩] at built
    exact ⟨b.variant, built⟩

theorem builtBy_other_iff :
    (∃ command, command ≠ b.command ∧ BuiltBy base orders b.variant command) ↔
      ∃ parameters, parameters ≠ r.parameters ∧
        ((start base).performAll orders).built.lookup b.variant = some parameters := by
  constructor
  · rintro ⟨command, other, built⟩
    obtain ⟨s, d, accepted', variant, rfl, found⟩ := built.request
    refine ⟨s.parameters, fun parameters => other ?_, found⟩
    exact (BuildRequest.command_eq_iff_parameters accepted' accepted).2 ⟨variant, parameters⟩
  · rintro ⟨parameters, other, found⟩
    obtain ⟨s, d, accepted', variant, rfl, built⟩ := builtBy_of_lookup found
    refine ⟨d.command, fun runs => other ?_, built⟩
    exact ((BuildRequest.command_eq_iff_parameters accepted' accepted).1 runs).2

end Accepted

/-- How an assembly answers a request for the build `b`, told from the builds it has `made`. -/
structure AnswersByCommand (a : Assembly) (made : Variant → Command → Prop) (r : BuildRequest)
    (b : Build) : Prop where
  reused_iff : (a.build r).2 = .ok b.product ∧ (a.build r).1.steps = a.steps ↔
    ∃ v, made v b.command
  conflict_iff : (a.build r).2 = .error (.conflictingBuild b.variant) ↔
    ∃ command, command ≠ b.command ∧ made b.variant command
  added_iff : (∃ step, (a.build r).2 = .ok b.product ∧ (a.build r).1.steps = a.steps ++ [step] ∧
      step.kind? = some .compile ∧ step.command? = some b.command) ↔
    (¬∃ v, made v b.command) ∧ ¬∃ command, command ≠ b.command ∧ made b.variant command

theorem build_accepted_cases (a : Assembly) {r : BuildRequest} {b : Build}
    (accepted : r.build = .ok b) :
    (a.built.lookup b.variant = some r.parameters ∧ a.build r = (a, .ok b.product)) ∨
    (∃ parameters, parameters ≠ r.parameters ∧ a.built.lookup b.variant = some parameters ∧
      a.build r = (a, .error (.conflictingBuild b.variant))) ∨
    (a.built.lookup b.variant = none ∧
      a.build r = (a.addBuild b r.parameters, .ok b.product)) := by
  rw [a.build_of_ok accepted]
  cases found : a.built.lookup b.variant with
  | none => exact .inr (.inr ⟨rfl, rfl⟩)
  | some parameters =>
    by_cases same : parameters = r.parameters
    · exact .inl ⟨by rw [same], if_pos same⟩
    · exact .inr (.inl ⟨parameters, same, rfl, if_neg same⟩)

theorem build_answersByCommand {r : BuildRequest} {b : Build} (accepted : r.build = .ok b) :
    ((start base).performAll orders).AnswersByCommand (BuiltBy base orders) r b := by
  have same := builtBy_same_iff base orders accepted
  have other := builtBy_other_iff base orders accepted
  -- The three answers are told apart by what the table of builds holds for the variant.
  rcases build_accepted_cases ((start base).performAll orders) accepted with
    ⟨found, answer⟩ | ⟨parameters, differ, found, answer⟩ | ⟨found, answer⟩
  · constructor <;> simp [same, other, found, answer]
  · constructor <;> simp [same, other, found, answer, differ]
  · constructor <;> simp [same, other, found, answer, addBuild, buildStep_kind, buildStep_command]

/-- A command tells a build from every other, and a session knows its builds by their commands. -/
theorem performAll_answersByCommand (base : String) (orders : List Order) :
    (∀ (r s : BuildRequest) (b d : Build), r.build = .ok b → s.build = .ok d →
      (b.command = d.command ↔
        b.variant = d.variant ∧ r.pic = s.pic ∧ r.extraArgs = s.extraArgs)) ∧
    ∀ (r : BuildRequest) (b : Build), r.build = .ok b →
      ((start base).performAll orders).AnswersByCommand (BuiltBy base orders) r b :=
  ⟨fun _ _ _ _ => BuildRequest.command_eq_iff, fun _ _ => build_answersByCommand⟩

/-- Extra arguments that imitate the PIC switch make another command for the same binary. -/
theorem imitated_pic_conflicts :
    let plain : BuildRequest := ⟨.plain .linux .x64 .o0 false, false, []⟩
    let imitation := { plain with extraArgs := ["EXTRA_CFLAGS=-fPIC", "EXTRA_CXXFLAGS=-fPIC"] }
    imitation.build = .ok ⟨imitation.command plain.variant, plain.variant⟩ ∧
      ∃ command, command ≠ imitation.command plain.variant ∧
        BuiltBy "unittest" [.build plain] plain.variant command := by
  intro plain imitation
  have accepted : imitation.build = .ok ⟨imitation.command plain.variant, plain.variant⟩ := rfl
  have answers := (performAll_answersByCommand "unittest" [.build plain]).2 _ _ accepted
  exact ⟨accepted, answers.conflict_iff.1 rfl⟩

end Assembly

end RaceFarm
