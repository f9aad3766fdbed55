import RaceFarm.Json.Basic
import RaceFarm.Text.Quoted

namespace RaceFarm.Json

/-- What stands where something else was expected. -/
inductive Found where
  | null
  | bool (value : Bool)
  | whole (value : Int)
  | real (value : Binary64)
  | str (value : String)
  | list
  | object

/-- Why well-formed text does not describe a value of the wanted type. -/
inductive Problem where
  | invalidType (found : Found) (expected : String)
  | invalidLength (length : Nat) (expected : String)
  | unknownVariant (name : String) (known : List String)
  | unknownField (name : String) (known : List String)
  | duplicateField (name : String)
  | missingField (name : String)

/-- Why reading stopped: the text describes something else, is not JSON, or ends too early. -/
inductive Fault where
  | data (problem : Problem)
  | malformed
  | truncated

def Found.describe : Found → String
  | .null => "null"
  | .bool value => "boolean `" ++ toString value ++ "`"
  | .whole value => "integer `" ++ String.ofList (wholeText value) ++ "`"
  | .real value => "floating point `" ++ String.ofList (realText value) ++ "`"
  | .str value => "string " ++ Text.quoted value
  | .list => "sequence"
  | .object => "map"

/-- The known names as a choice. -/
def choice (known : List String) : String :=
  let marked := known.map fun name => "`" ++ name ++ "`"
  match marked with
  | [only] => only
  | [first, second] => first ++ " or " ++ second
  | many => "one of " ++ ", ".intercalate many

def Problem.message : Problem → String
  | .invalidType found expected => "invalid type: " ++ found.describe ++ ", expected " ++ expected
  | .invalidLength length expected =>
    "invalid length " ++ toString length ++ ", expected " ++ expected
  | .unknownVariant name known => "unknown variant `" ++ name ++ "`, expected " ++ choice known
  | .unknownField name known => "unknown field `" ++ name ++ "`, expected " ++ choice known
  | .duplicateField name => "duplicate field `" ++ name ++ "`"
  | .missingField name => "missing field `" ++ name ++ "`"

end RaceFarm.Json
