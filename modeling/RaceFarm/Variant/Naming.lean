import RaceFarm.Text.Cut
import RaceFarm.Variant.Basic

namespace RaceFarm

def defaultBaseName : String := "racecheck_unittest"

namespace Variant

/-- Name of the built binary, the key that joins a build with the tests of it. -/
def artifactName (v : Variant) (base : String) : String :=
  base ++ "-" ++ v.os.name ++ "-" ++ v.bits.arch ++ "-O" ++ toString v.opt.level ++
    (if v.static then "-static" else "") ++
    (v.suffix.elim "" Suffix.text) ++
    (if v.os = .windows then ".exe" else "")

def binaryPath (v : Variant) (base : String) : String :=
  "unittest/bin/" ++ v.artifactName base

/-- The matrix point in parentheses, as step descriptions and messages show it. -/
def describe (v : Variant) : String :=
  let parts := [v.os.name, toString v.bits.width, "O" ++ toString v.opt.level] ++
    (if v.static then ["static"] else []) ++ (v.suffix.map Suffix.text).toList
  "(" ++ ",".intercalate parts ++ ")"

end Variant

def suffixArgument : String := "EXTRA_BUILD_SUFFIX="

/-- Value of the first make argument that sets the build suffix. -/
def findSuffixArgument (args : List String) : Option String :=
  args.findSome? fun arg =>
    (Text.after suffixArgument.toList arg.toList).map String.ofList

end RaceFarm
