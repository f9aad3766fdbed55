import RaceFarm.Assembly
import RaceFarm.PipelineId
import RaceFarm.Sha256

namespace RaceFarm

structure Builder where
  name : String
  agent : String
  buildDir : String
  pipeline : PipelineId
deriving DecidableEq

def Builder.toJson (b : Builder) : Json :=
  .object [("name", .str b.name), ("agent", .str b.agent), ("build_dir", .str b.buildDir),
    ("pipeline", b.pipeline.toJson)]

/-- At most one pipeline under each name. -/
structure Pipelines where
  linuxBuild : Option Pipeline
  linuxSmall : Option Pipeline
  windows : Option Pipeline
deriving DecidableEq

namespace Pipelines

def empty : Pipelines := ⟨none, none, none⟩

def get? (p : Pipelines) : PipelineId → Option Pipeline
  | .linuxBuild => p.linuxBuild
  | .linuxSmall => p.linuxSmall
  | .windows => p.windows

def ofFn (pipeline : PipelineId → Option Pipeline) : Pipelines :=
  ⟨pipeline .linuxBuild, pipeline .linuxSmall, pipeline .windows⟩

/-- The pipelines that are present, in the order of their names. -/
def toList (p : Pipelines) : List (PipelineId × Pipeline) :=
  PipelineId.all.filterMap fun id => (p.get? id).map (id, ·)

@[simp] theorem get?_ofFn (pipeline : PipelineId → Option Pipeline) (id : PipelineId) :
    (ofFn pipeline).get? id = pipeline id := by
  cases id <;> rfl

end Pipelines

/-- Builders, and the pipelines that they run. -/
structure Catalogue where
  builders : List Builder
  pipelines : Pipelines
deriving DecidableEq

namespace Catalogue

def builder? (c : Catalogue) (name : String) : Option Builder :=
  c.builders.find? (·.name = name)

/-- The builders of the given names in their order, each once. -/
def pick (c : Catalogue) : List String → List Builder → Except ConfigError (List Builder)
  | [], picked => .ok picked
  | name :: names, picked =>
    match c.builder? name with
    | none => .error (.unknownBuilder name)
    | some b => c.pick names (if picked.any (·.name = b.name) then picked else picked ++ [b])

/-- Keeps the named builders and the pipelines they run; all of them if no name is given. -/
def select (c : Catalogue) (names : List String) : Except ConfigError Catalogue :=
  if names = [] then .ok c
  else do
    let builders ← c.pick names []
    let used := fun id => builders.any (·.pipeline = id)
    return { builders, pipelines := .ofFn fun id => if used id then c.pipelines.get? id else none }

def members (c : Catalogue) : List (String × Json) := [
  ("builders", .list (c.builders.map Builder.toJson)),
  ("pipelines", .object (c.pipelines.toList.map fun (id, p) => (id.name, p.toJson)))]

def toJson (c : Catalogue) : Json := .object c.members

end Catalogue

/-- A fingerprint of something that has been written out. -/
structure Digest where
  algorithm : String
  value : String
deriving DecidableEq

namespace Digest

/-- The bytes that a digest is taken of: the compact text in UTF-8. -/
def message (json : Json) : List UInt8 := json.compact.toUTF8.data.toList

def ofJson (json : Json) : Digest :=
  { algorithm := "sha256", value := Sha256.hex (message json) }

def toJson (d : Digest) : Json :=
  .object [("algorithm", .str d.algorithm), ("value", .str d.value)]

end Digest

end RaceFarm
