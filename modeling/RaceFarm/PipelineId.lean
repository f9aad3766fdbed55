import RaceFarm.Json.Decode

namespace RaceFarm

inductive PipelineId where
  | linuxBuild
  | linuxSmall
  | windows
deriving DecidableEq

namespace PipelineId

def all : List PipelineId := [linuxBuild, linuxSmall, windows]

def name : PipelineId → String
  | linuxBuild => "linux-build"
  | linuxSmall => "linux-small"
  | windows => "windows"

def ofName? (name : String) : Option PipelineId :=
  all.find? (·.name = name)

def toJson (id : PipelineId) : Json := .str id.name

def reader : Json.Reader PipelineId :=
  Json.readChoice (all.map fun id => (id.name, id))

end PipelineId

end RaceFarm
