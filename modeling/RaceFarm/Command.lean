import RaceFarm.Json.Basic

namespace RaceFarm

abbrev Env := KeyTable String

/-- What a step runs: an argument vector, or a line for the agent's shell. -/
inductive Command where
  | argv (args : List String)
  | shell (line : String)
deriving DecidableEq

namespace Command

/-- The command as one line; arguments are joined by single blanks, without quoting. -/
def line : Command → String
  | argv args => " ".intercalate args
  | shell line => line

/-- The arguments; a shell line has none. -/
def args : Command → List String
  | argv args => args
  | shell _ => []

def toJson : Command → Json
  | argv args => .object [("argv", .texts args)]
  | shell line => .object [("shell", .str line)]

end Command

end RaceFarm
