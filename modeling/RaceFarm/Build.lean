import RaceFarm.Command
import RaceFarm.ConfigError

namespace RaceFarm

structure BuildRequest where
  variant : Variant
  /-- Position-independent code. -/
  pic : Bool
  extraArgs : List String
deriving DecidableEq

/-- A build ready to run, and the variant its output is named after. -/
structure Build where
  command : Command
  variant : Variant
deriving DecidableEq

namespace BuildRequest

/-- The variant that the build's output is named after: the PIC tag and the PIC switch imply each
    other, and a PIC build has room for no other tag. -/
def effectiveVariant (r : BuildRequest) : Except ConfigError Variant :=
  match r.pic, r.variant.suffix with
  | true, none => .ok (r.variant.tagged .pic)
  | true, some suffix =>
    if suffix = .pic then .ok r.variant
    else .error (.picSuffixConflict r.variant.untagged suffix)
  | false, some suffix =>
    if suffix = .pic then .error (.picSuffixWithoutPic r.variant) else .ok r.variant
  | false, none => .ok r.variant

/-- The make arguments that spell out a variant. -/
def makeArgs (pic : Bool) (v : Variant) : List String :=
  ["OS=" ++ v.os.name, "ARCH=" ++ v.bits.arch, "OPT=" ++ toString v.opt.level,
    "STATIC=" ++ if v.static then "1" else "0"] ++
  (if pic then ["EXTRA_CFLAGS=-fPIC", "EXTRA_CXXFLAGS=-fPIC"] else []) ++
  (v.suffix.map fun suffix => suffixArgument ++ suffix.text).toList

def command (r : BuildRequest) (v : Variant) : Command :=
  .argv (["make", "-C", "unittest", "all"] ++ makeArgs r.pic v ++ r.extraArgs)

/-- The build of a request. The tag must come from the variant, never from an extra argument. -/
def build (r : BuildRequest) : Except ConfigError Build :=
  match findSuffixArgument r.extraArgs with
  | some value => .error (.suffixInExtraArgs value)
  | none => do
    let variant ← r.effectiveVariant
    return { command := r.command variant, variant }

end BuildRequest

end RaceFarm
