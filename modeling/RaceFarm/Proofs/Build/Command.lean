import RaceFarm.Build
import RaceFarm.Proofs.Variant.Naming

namespace RaceFarm

theorem findSuffixArgument_append (args more : List String) :
    findSuffixArgument (args ++ more) = (findSuffixArgument args).or (findSuffixArgument more) :=
  List.findSome?_append

namespace BuildRequest

variable {r s : BuildRequest} {b d : Build} {v w : Variant}

/-- The tokens that spell out everything of a variant but its tag. -/
def pointArgs (v : Variant) : List String :=
  ["make", "-C", "unittest", "all", "OS=" ++ v.os.name, "ARCH=" ++ v.bits.arch,
    "OPT=" ++ toString v.opt.level, "STATIC=" ++ if v.static then "1" else "0"]

def picArgs (pic : Bool) : List String :=
  if pic then ["EXTRA_CFLAGS=-fPIC", "EXTRA_CXXFLAGS=-fPIC"] else []

def tagArgs (v : Variant) : List String :=
  (v.suffix.map fun suffix => suffixArgument ++ suffix.text).toList

theorem command_argv (r : BuildRequest) (v : Variant) :
    r.command v = .argv (pointArgs v ++ (picArgs r.pic ++ (tagArgs v ++ r.extraArgs))) := by
  simp [command, makeArgs, pointArgs, picArgs, tagArgs]

theorem pointArgs_inj (same : pointArgs v = pointArgs w) :
    v.os = w.os ∧ v.bits = w.bits ∧ v.opt = w.opt ∧ v.static = w.static := by
  simp only [pointArgs, List.cons.injEq, String.append_right_inj, and_true, true_and] at same
  obtain ⟨os, bits, opt, static⟩ := same
  refine ⟨Os.name_inj os, Bits.arch_inj bits, OptLevel.level_inj opt, ?_⟩
  cases linkage : v.static <;> cases linkage' : w.static <;> simp_all

theorem pointArgs_suffix (v : Variant) : findSuffixArgument (pointArgs v) = none := by
  unfold pointArgs
  cases v.os <;> cases v.bits <;> cases v.opt <;> cases v.static <;> decide

theorem picArgs_suffix (pic : Bool) : findSuffixArgument (picArgs pic) = none := by
  cases pic <;> decide

theorem tagArgs_suffix (v : Variant) :
    findSuffixArgument (tagArgs v) = v.suffix.map Suffix.text := by
  unfold tagArgs
  cases v.suffix with
  | none => rfl
  | some suffix =>
    simp [findSuffixArgument, Text.after_eq_some_iff.2 rfl]

/-- The tag of the variant is the only one that a command sets. -/
theorem command_suffix (plain : findSuffixArgument r.extraArgs = none) :
    findSuffixArgument (r.command v).args = v.suffix.map Suffix.text := by
  rw [command_argv, Command.args, findSuffixArgument_append, findSuffixArgument_append,
    findSuffixArgument_append, pointArgs_suffix, picArgs_suffix, tagArgs_suffix, plain]
  simp

theorem build_eq_ok_iff :
    r.build = .ok b ↔ findSuffixArgument r.extraArgs = none ∧
      r.effectiveVariant = .ok b.variant ∧ b.command = r.command b.variant := by
  obtain ⟨command, variant⟩ := b
  unfold build
  cases findSuffixArgument r.extraArgs with
  | some value => simp
  | none =>
    cases effective : r.effectiveVariant with
    | error error => simp [bind, Except.bind]
    | ok v =>
      simp only [bind, Except.bind, pure, Except.pure, Except.ok.injEq, Build.mk.injEq, true_and]
      constructor
      · rintro ⟨rfl, rfl⟩
        exact ⟨rfl, rfl⟩
      · rintro ⟨rfl, rfl⟩
        exact ⟨rfl, rfl⟩

theorem effectiveVariant_pic_iff (effective : r.effectiveVariant = .ok v) :
    v.suffix = some .pic ↔ r.pic = true := by
  unfold effectiveVariant at effective
  split at effective
  · rename_i switched untagged
    cases effective
    simp [switched, Variant.tagged]
  · rename_i suffix switched tagged
    split at effective <;> cases effective
    rename_i same
    simp [switched, tagged, same]
  · rename_i suffix switched tagged
    split at effective <;> cases effective
    rename_i other
    simp [switched, tagged, other]
  · rename_i switched untagged
    cases effective
    simp [switched, untagged]

theorem command_eq_iff (accepted : r.build = .ok b) (accepted' : s.build = .ok d) :
    b.command = d.command ↔
      b.variant = d.variant ∧ r.pic = s.pic ∧ r.extraArgs = s.extraArgs := by
  obtain ⟨plain, effective, runs⟩ := build_eq_ok_iff.1 accepted
  obtain ⟨plain', effective', runs'⟩ := build_eq_ok_iff.1 accepted'
  constructor
  · intro same
    rw [runs, runs'] at same
    -- The tag is read off first, since it alone says whether the PIC switches were set.
    have tag : b.variant.suffix = d.variant.suffix := by
      have read := congrArg (findSuffixArgument ·.args) same
      simp only [command_suffix plain, command_suffix plain'] at read
      exact Option.map_injective (fun _ _ => Suffix.text_inj) read
    have pic : r.pic = s.pic := by
      rw [Bool.eq_iff_iff, ← effectiveVariant_pic_iff effective, tag,
        effectiveVariant_pic_iff effective']
    rw [command_argv, command_argv, Command.argv.injEq] at same
    obtain ⟨point, rest⟩ := List.append_inj same rfl
    rw [pic, tagArgs, tagArgs, tag, List.append_cancel_left_eq, List.append_cancel_left_eq] at rest
    obtain ⟨os, bits, opt, static⟩ := pointArgs_inj point
    exact ⟨Variant.ext os bits opt static tag, pic, rest⟩
  · rintro ⟨variant, pic, extraArgs⟩
    rw [runs, runs', command_argv, command_argv, variant, pic, extraArgs]

end BuildRequest

end RaceFarm
