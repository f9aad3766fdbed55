import RaceFarm.Proofs.Build.Command

namespace RaceFarm

/-- The value that an argument assigns to a variable of make. -/
def assigned? (name arg : String) : Option String :=
  (Text.after (name ++ "=").toList arg.toList).map String.ofList

/-- The value that a variable of make has in the end: the last assignment on the command line
    wins. -/
def makeValue (name : String) (args : List String) : Option String :=
  args.reverse.findSome? (assigned? name)

theorem makeValue_append (name : String) (first second : List String) :
    makeValue name (first ++ second) = (makeValue name second).or (makeValue name first) := by
  rw [makeValue, List.reverse_append, List.findSome?_append]
  rfl

theorem makeValue_suffix_eq_none_iff {args : List String} :
    makeValue "EXTRA_BUILD_SUFFIX" args = none ↔ findSuffixArgument args = none := by
  simp only [makeValue, findSuffixArgument, List.findSome?_eq_none_iff, List.mem_reverse]
  rfl

namespace Variant

/-- The variables of make that choose a point of the build matrix, with the values for this one. -/
def settings (v : Variant) : List (String × String) :=
  [("OS", v.os.name), ("ARCH", v.bits.arch), ("OPT", toString v.opt.level),
    ("STATIC", if v.static then "1" else "0")]

/-- With these arguments, make builds the variant and names the binary after it. -/
structure SetBy (v : Variant) (args : List String) : Prop where
  point : ∀ setting ∈ v.settings, makeValue setting.1 args = some setting.2
  tag : makeValue "EXTRA_BUILD_SUFFIX" args = v.suffix.map Suffix.text

theorem SetBy.unique {v w : Variant} {args : List String} (set : v.SetBy args)
    (set' : w.SetBy args) : v = w := by
  have point := set.point
  have point' := set'.point
  simp only [settings, List.forall_mem_cons, List.not_mem_nil, false_imp_iff, implies_true,
    and_true] at point point'
  obtain ⟨os, arch, opt, linkage⟩ := point
  obtain ⟨os', arch', opt', linkage'⟩ := point'
  have static : v.static = w.static := by
    have same := Option.some.inj (linkage.symm.trans linkage')
    cases first : v.static <;> cases second : w.static <;> simp_all
  exact Variant.ext (Os.name_inj (Option.some.inj (os.symm.trans os')))
    (Bits.arch_inj (Option.some.inj (arch.symm.trans arch')))
    (OptLevel.level_inj (Option.some.inj (opt.symm.trans opt'))) static
    (Option.map_injective (fun _ _ => Suffix.text_inj) (set.tag.symm.trans set'.tag))

end Variant

namespace BuildRequest

variable {r : BuildRequest} {b : Build} (v : Variant)

theorem pointArgs_value :
    ∀ setting ∈ v.settings, makeValue setting.1 (pointArgs v) = some setting.2 := by
  unfold Variant.settings pointArgs
  cases v.os <;> cases v.bits <;> cases v.opt <;> cases v.static <;> decide

theorem picArgs_value (pic : Bool) :
    ∀ setting ∈ v.settings, makeValue setting.1 (picArgs pic) = none := by
  simp only [Variant.settings, List.forall_mem_cons]
  cases pic <;> exact ⟨by decide, by decide, by decide, by decide, nofun⟩

theorem tagArgs_value : ∀ setting ∈ v.settings, makeValue setting.1 (tagArgs v) = none := by
  unfold tagArgs
  cases v.suffix with
  | none => simp [makeValue]
  | some suffix =>
    simp [Variant.settings, makeValue, assigned?, Text.after, suffixArgument]

theorem command_value : ∀ setting ∈ v.settings,
    makeValue setting.1 (r.command v).args =
      some ((makeValue setting.1 r.extraArgs).getD setting.2) := by
  intro setting listed
  rw [command_argv, Command.args, makeValue_append, makeValue_append, makeValue_append,
    pointArgs_value v setting listed, picArgs_value v r.pic setting listed,
    tagArgs_value v setting listed]
  cases makeValue setting.1 r.extraArgs <;> rfl

theorem command_tag (plain : findSuffixArgument r.extraArgs = none) :
    makeValue "EXTRA_BUILD_SUFFIX" (r.command v).args = v.suffix.map Suffix.text := by
  have tag : makeValue "EXTRA_BUILD_SUFFIX" (tagArgs v) = v.suffix.map Suffix.text := by
    rw [← tagArgs_suffix]
    unfold tagArgs
    cases v.suffix <;> rfl
  rw [command_argv, Command.args, makeValue_append, makeValue_append, makeValue_append,
    makeValue_suffix_eq_none_iff.2 (pointArgs_suffix v),
    makeValue_suffix_eq_none_iff.2 (picArgs_suffix r.pic), makeValue_suffix_eq_none_iff.2 plain,
    tag]
  simp

/-- The extra arguments assign nothing else to the variables that choose the variant. -/
def Keeps (r : BuildRequest) (v : Variant) : Prop :=
  ∀ setting ∈ v.settings, ∀ value, makeValue setting.1 r.extraArgs = some value → value = setting.2

theorem command_sets_iff (plain : findSuffixArgument r.extraArgs = none) :
    v.SetBy (r.command v).args ↔ r.Keeps v := by
  constructor
  · intro set setting listed value given
    have wins := set.point setting listed
    rw [command_value v setting listed, given] at wins
    exact Option.some.inj wins
  · intro keeps
    refine ⟨fun setting listed => ?_, command_tag v plain⟩
    rw [command_value v setting listed]
    cases given : makeValue setting.1 r.extraArgs with
    | none => rfl
    | some value => rw [keeps setting listed value given, Option.getD_some]

/-- The tag is always the variant's own. The rest of the variant is what make builds unless an extra
    argument assigns another value, which then wins. -/
theorem build_sets_iff (accepted : r.build = .ok b) :
    (∀ setting ∈ b.variant.settings, makeValue setting.1 b.command.args =
      some ((makeValue setting.1 r.extraArgs).getD setting.2)) ∧
    makeValue "EXTRA_BUILD_SUFFIX" b.command.args = b.variant.suffix.map Suffix.text ∧
    (b.variant.SetBy b.command.args ↔ r.Keeps b.variant) ∧
    ∀ made : Variant, made.SetBy b.command.args → ∀ base,
      (made.artifactName base = b.variant.artifactName base ↔ r.Keeps b.variant) := by
  obtain ⟨plain, -, runs⟩ := build_eq_ok_iff.1 accepted
  rw [runs]
  refine ⟨command_value b.variant, command_tag b.variant plain, command_sets_iff b.variant plain,
    ?_⟩
  intro made set base
  rw [← command_sets_iff b.variant plain]
  constructor
  · intro same
    rwa [Variant.artifactName_inj same] at set
  · intro set'
    rw [set.unique set']

theorem parallel_pic_build_sets :
    let r : BuildRequest := ⟨.plain .linux .x32 .o1 true, true, ["-j4", "OPT=1"]⟩
    let v := r.variant.tagged .pic
    r.build = .ok ⟨r.command v, v⟩ ∧ r.Keeps v ∧ v.SetBy (r.command v).args ∧
      makeValue "EXTRA_BUILD_SUFFIX" (r.command v).args = some "-PIC" := by
  intro r v
  have accepted : r.build = .ok ⟨r.command v, v⟩ := rfl
  have keeps : r.Keeps v := by
    simp only [Keeps, Variant.settings, List.forall_mem_cons]
    refine ⟨?_, ?_, ?_, ?_, nofun⟩
    · exact nofun
    · exact nofun
    · intro value given
      obtain rfl := Option.some.inj given
      decide
    · exact nofun
  obtain ⟨-, tag, sets_iff, -⟩ := build_sets_iff accepted
  exact ⟨accepted, keeps, sets_iff.2 keeps, tag⟩

/-- An extra argument can make the build of one variant write the binary of another. -/
theorem extra_opt_changes_artifact :
    let r : BuildRequest := ⟨.plain .linux .x64 .o0 false, false, ["OPT=1"]⟩
    let made : Variant := .plain .linux .x64 .o1 false
    ∃ b, r.build = .ok b ∧ b.variant = r.variant ∧ makeValue "OPT" b.command.args = some "1" ∧
      ¬b.variant.SetBy b.command.args ∧ made.SetBy b.command.args ∧
      made.artifactName defaultBaseName = "racecheck_unittest-linux-amd64-O1" ∧
      b.variant.artifactName defaultBaseName = "racecheck_unittest-linux-amd64-O0" := by
  intro r made
  have sets : made.SetBy (r.command r.variant).args := ⟨by decide, by decide⟩
  refine ⟨⟨r.command r.variant, r.variant⟩, rfl, rfl, by decide, ?_, sets, by decide, by decide⟩
  intro other
  exact absurd (sets.unique other) (by decide)

end BuildRequest

end RaceFarm
