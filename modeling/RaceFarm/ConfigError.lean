import RaceFarm.Checker.Frontend
import RaceFarm.Variant.Naming

namespace RaceFarm

/-- Why a build, a test or a whole deployment cannot be assembled. -/
inductive ConfigError where
  | unknownFrontend (name : String)
  | unknownMode (name : String)
  | unknownOs (name : String)
  | unsupportedBits (width : Nat)
  | unsupportedOpt (level : Nat)
  | invalidSuffix (text : String)
  | picSuffixConflict (untagged : Variant) (suffix : Suffix)
  | picSuffixWithoutPic (variant : Variant)
  | suffixInExtraArgs (value : String)
  | conflictingBuild (variant : Variant)
  | missingBuild (variant : Variant)
  | frontendOsMismatch (frontend : Frontend) (os : Os)
  | modeFlagInArgs (arg : String)
  | foreignFlag (frontend : Frontend) (flag : String)
  | foreignWrapper (frontend : Frontend) (wrapper : String)
  | emptyToolTests
  | duplicateBuilder (name : String)
  | unknownBuilder (name : String)
deriving DecidableEq

namespace ConfigError

def message : ConfigError → String
  | unknownFrontend name =>
    "unknown frontend `" ++ name ++ "` (expected valgrind, pin or pin-win)"
  | unknownMode name => "unknown mode `" ++ name ++ "` (expected phb or hybrid)"
  | unknownOs name => "unknown os `" ++ name ++ "` (expected linux or windows)"
  | unsupportedBits width =>
    "unsupported bit width " ++ toString width ++ " (expected 32 or 64)"
  | unsupportedOpt level =>
    "unsupported optimization level " ++ toString level ++ " (expected 0 or 1)"
  | invalidSuffix text =>
    "invalid build suffix `" ++ text ++ "`: must start with '-', must not contain '.' and " ++
      "must not start with '-static'"
  | picSuffixConflict untagged suffix =>
    "PIC build of " ++ untagged.describe ++ " cannot carry the suffix `" ++ suffix.text ++ "`"
  | picSuffixWithoutPic variant =>
    "variant " ++ variant.describe ++
      " carries the PIC suffix but was not requested as a PIC build"
  | suffixInExtraArgs value =>
    "EXTRA_BUILD_SUFFIX must come from the variant, found `" ++ value ++
      "` in extra build arguments"
  | conflictingBuild variant =>
    "variant " ++ variant.describe ++
      " is already built in this pipeline with different build parameters"
  | missingBuild variant =>
    "no build of variant " ++ variant.describe ++ " is available to this pipeline"
  | frontendOsMismatch frontend os =>
    "frontend " ++ frontend.name ++ " cannot run " ++ os.name ++ " test binaries"
  | modeFlagInArgs arg =>
    "mode flag `" ++ arg ++ "` in extra arguments; the mode is chosen by the run configuration"
  | foreignFlag frontend flag =>
    "flag `" ++ flag ++ "` belongs to another frontend and cannot be passed to " ++ frontend.name
  | foreignWrapper frontend wrapper =>
    "wrapper `" ++ wrapper ++ "` belongs to another frontend and cannot run " ++ frontend.name
  | emptyToolTests => "tool test step needs at least one arch/os target"
  | duplicateBuilder name => "duplicate builder name `" ++ name ++ "`"
  | unknownBuilder name => "unknown builder `" ++ name ++ "`"

end ConfigError

def Os.named (name : String) : Except ConfigError Os :=
  (ofName? name).elim (.error (.unknownOs name)) .ok

def Bits.ofWidth (width : Nat) : Except ConfigError Bits :=
  (ofWidth? width).elim (.error (.unsupportedBits width)) .ok

def OptLevel.ofLevel (level : Nat) : Except ConfigError OptLevel :=
  (ofLevel? level).elim (.error (.unsupportedOpt level)) .ok

def Frontend.named (name : String) : Except ConfigError Frontend :=
  (ofName? name).elim (.error (.unknownFrontend name)) .ok

def Mode.named (name : String) : Except ConfigError Mode :=
  (ofName? name).elim (.error (.unknownMode name)) .ok

/-- The untagged variant with the given numbers. -/
def Variant.ofNumbers (os : Os) (width level : Nat) (static : Bool) :
    Except ConfigError Variant := do
  return .plain os (← Bits.ofWidth width) (← OptLevel.ofLevel level) static

def Variant.withSuffix (v : Variant) (text : String) : Except ConfigError Variant :=
  (Suffix.ofText? text).elim (.error (.invalidSuffix text)) fun suffix => .ok (v.tagged suffix)

end RaceFarm
