import RaceFarm.Benchmark.Spec
import RaceFarm.PipelineId
import RaceFarm.Variant.Naming

namespace RaceFarm

structure BenchmarkSettings where
  pipeline : PipelineId
  platform : String
  name : String
  /-- Shell line that runs the benchmark. -/
  command : String
  expectations : Expectations
deriving DecidableEq

namespace BenchmarkSettings

def spec (b : BenchmarkSettings) : BenchmarkSpec :=
  { platform := b.platform, benchmark := b.name, expectations := b.expectations }

def toJson (b : BenchmarkSettings) : Json :=
  .object [
    ("pipeline", b.pipeline.toJson),
    ("platform", .str b.platform),
    ("name", .str b.name),
    ("command", .str b.command),
    ("expectations", Expectations.toJson b.expectations)]

structure Draft where
  pipeline : Option PipelineId
  platform : Option String
  name : Option String
  command : Option String
  expectations : Option Expectations

def shape : Json.Shape Draft BenchmarkSettings where
  name := "BenchmarkSettings"
  closed := true
  blank := ⟨none, none, none, none, none⟩
  fields := [
    { name := "pipeline"
      optional := false
      filled := (·.pipeline.isSome)
      read := fun draft text => do
        let (value, rest) ← PipelineId.reader text
        return ({ draft with pipeline := some value }, rest) },
    { name := "platform"
      optional := false
      filled := (·.platform.isSome)
      read := fun draft text => do
        let (value, rest) ← Json.readString text
        return ({ draft with platform := some value }, rest) },
    { name := "name"
      optional := false
      filled := (·.name.isSome)
      read := fun draft text => do
        let (value, rest) ← Json.readString text
        return ({ draft with name := some value }, rest) },
    { name := "command"
      optional := false
      filled := (·.command.isSome)
      read := fun draft text => do
        let (value, rest) ← Json.readString text
        return ({ draft with command := some value }, rest) },
    { name := "expectations"
      optional := true
      filled := (·.expectations.isSome)
      read := fun draft text => do
        let (value, rest) ← Expectations.reader text
        return ({ draft with expectations := some value }, rest) }]
  finish := fun draft => do
    return {
      pipeline := ← Json.require "pipeline" draft.pipeline
      platform := ← Json.require "platform" draft.platform
      name := ← Json.require "name" draft.name
      command := ← Json.require "command" draft.command
      expectations := draft.expectations.getD .empty }

def reader : Json.Reader BenchmarkSettings := shape.read

end BenchmarkSettings

structure Settings where
  svnurl : String
  /-- Valgrind build that the linux build fetches. -/
  valgrindBuildUrl : String
  windowsPinRoot : String
  testBaseName : String
  benchmarks : List BenchmarkSettings
deriving DecidableEq

namespace Settings

def stock : Settings where
  svnurl := "http://data-race-test.googlecode.com/svn/trunk"
  valgrindBuildUrl := "http://vm42-m3/b/build/slave/full_valgrind/valgrind_build.tar.gz"
  windowsPinRoot := "c:/pin"
  testBaseName := defaultBaseName
  benchmarks := []

def benchmarksFor (s : Settings) (id : PipelineId) : List BenchmarkSettings :=
  s.benchmarks.filter (·.pipeline = id)

def toJson (s : Settings) : Json :=
  .object [
    ("svnurl", .str s.svnurl),
    ("valgrind_build_url", .str s.valgrindBuildUrl),
    ("windows_pin_root", .str s.windowsPinRoot),
    ("test_base_name", .str s.testBaseName),
    ("benchmarks", .list (s.benchmarks.map BenchmarkSettings.toJson))]

structure Draft where
  svnurl : Option String
  valgrindBuildUrl : Option String
  windowsPinRoot : Option String
  testBaseName : Option String
  benchmarks : Option (List BenchmarkSettings)

/-- Every field may be absent, but no other may be present. -/
def shape : Json.Shape Draft Settings where
  name := "Settings"
  closed := true
  blank := ⟨none, none, none, none, none⟩
  fields := [
    { name := "svnurl"
      optional := true
      filled := (·.svnurl.isSome)
      read := fun draft text => do
        let (value, rest) ← Json.readString text
        return ({ draft with svnurl := some value }, rest) },
    { name := "valgrind_build_url"
      optional := true
      filled := (·.valgrindBuildUrl.isSome)
      read := fun draft text => do
        let (value, rest) ← Json.readString text
        return ({ draft with valgrindBuildUrl := some value }, rest) },
    { name := "windows_pin_root"
      optional := true
      filled := (·.windowsPinRoot.isSome)
      read := fun draft text => do
        let (value, rest) ← Json.readString text
        return ({ draft with windowsPinRoot := some value }, rest) },
    { name := "test_base_name"
      optional := true
      filled := (·.testBaseName.isSome)
      read := fun draft text => do
        let (value, rest) ← Json.readString text
        return ({ draft with testBaseName := some value }, rest) },
    { name := "benchmarks"
      optional := true
      filled := (·.benchmarks.isSome)
      read := fun draft text => do
        let (value, rest) ← Json.readList BenchmarkSettings.reader text
        return ({ draft with benchmarks := some value }, rest) }]
  finish := fun draft =>
    .ok {
      svnurl := draft.svnurl.getD stock.svnurl
      valgrindBuildUrl := draft.valgrindBuildUrl.getD stock.valgrindBuildUrl
      windowsPinRoot := draft.windowsPinRoot.getD stock.windowsPinRoot
      testBaseName := draft.testBaseName.getD stock.testBaseName
      benchmarks := draft.benchmarks.getD stock.benchmarks }

def reader : Json.Reader Settings := shape.read

end Settings

end RaceFarm
