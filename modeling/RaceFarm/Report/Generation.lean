import RaceFarm.Deployment

namespace RaceFarm

structure Tool where
  name : String
  version : String
  commit : Option String
deriving DecidableEq

def Tool.toJson (t : Tool) : Json :=
  .object [("name", .str t.name), ("version", .str t.version),
    ("commit", Json.optional .str t.commit)]

def Tool.heading (t : Tool) : String := "racebot " ++ t.version ++ "\n"

/-- Version of the layout of both reports. -/
def schemaVersion : String := "0.1.0"

/-- Builders and pipelines with their fingerprint. -/
structure GenerationReport where
  tool : Tool
  digest : Digest
  catalogue : Catalogue
deriving DecidableEq

namespace GenerationReport

def ofCatalogue (tool : Tool) (catalogue : Catalogue) : GenerationReport :=
  { tool, digest := .ofJson catalogue.toJson, catalogue }

def generate (settings : Settings) (names : List String) (tool : Tool) :
    Except ConfigError GenerationReport := do
  let catalogue ← settings.deploy
  return .ofCatalogue tool (← catalogue.select names)

def toJson (r : GenerationReport) : Json :=
  .object ([("schema_version", .str schemaVersion), ("tool", r.tool.toJson),
    ("digest", r.digest.toJson)] ++ r.catalogue.members)

def modeText (mode : Nat) : String := String.ofList (Nat.toDigits 8 mode)

def actionText : Action → String
  | .checkout svnurl mode => "checkout " ++ svnurl ++ " (" ++ mode ++ ")"
  | .command _ command _ => command.line
  | .upload source destination mode =>
    "upload " ++ source ++ " -> " ++ destination.text ++ " (" ++ modeText mode ++ ")"
  | .download source destination mode =>
    "download " ++ source ++ " -> " ++ destination ++ " (" ++ modeText mode ++ ")"

def stepText (s : Step) : String :=
  "[" ++ s.descriptionDone ++ "] " ++ actionText s.action ++
    if s.fatal then "" else " [non-fatal]"

/-- A number with blanks before it up to three places. -/
def padded (n : Nat) : String :=
  let digits := Nat.toDigits 10 n
  String.ofList (List.replicate (3 - digits.length) ' ' ++ digits)

def builderText (b : Builder) : String :=
  "Builder " ++ b.name ++ " (agent " ++ b.agent ++ ", dir " ++ b.buildDir ++ ", pipeline " ++
    b.pipeline.name ++ ")\n"

def pipelineText (id : PipelineId) (p : Pipeline) : String :=
  "Pipeline " ++ id.name ++ " (" ++ toString p.steps.length ++ " steps):\n" ++
    String.join (p.steps.zipIdx.map fun (step, index) =>
      "  " ++ padded (index + 1) ++ ". " ++ stepText step ++ "\n")

def render (r : GenerationReport) : String :=
  r.tool.heading ++ "Digest: " ++ r.digest.algorithm ++ ":" ++ r.digest.value ++ "\n" ++
    String.join (r.catalogue.builders.map builderText) ++
    String.join (r.catalogue.pipelines.toList.map fun (id, p) => pipelineText id p)

end GenerationReport

end RaceFarm
