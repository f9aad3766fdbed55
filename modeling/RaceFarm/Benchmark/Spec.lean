import RaceFarm.Benchmark.Expectation

namespace RaceFarm

/-- Expected ranges by `graph/trace`. -/
abbrev Expectations := KeyTable Expectation

namespace Expectations

def reader : Json.Reader Expectations := Json.readTable Expectation.reader

def toJson (e : Expectations) : Json := Json.table Expectation.toJson e

end Expectations

/-- A benchmark, where its graphs are kept, and what it should measure. -/
structure BenchmarkSpec where
  platform : String
  benchmark : String
  expectations : Expectations
deriving DecidableEq

namespace BenchmarkSpec

def baseDir (s : BenchmarkSpec) : String := "perf/" ++ s.platform ++ "/" ++ s.benchmark

/-- Directory on the master that receives the graph data. -/
def outputDir (s : BenchmarkSpec) : String := "public_html/" ++ s.baseDir

def reportLink (s : BenchmarkSpec) : String := s.baseDir ++ "/report.html?history=1000"

def members (s : BenchmarkSpec) : List (String × Json) := [
  ("platform", .str s.platform),
  ("benchmark", .str s.benchmark),
  ("expectations", Expectations.toJson s.expectations)]

def toJson (s : BenchmarkSpec) : Json := .object s.members

structure Draft where
  platform : Option String
  benchmark : Option String
  expectations : Option Expectations

def shape : Json.Shape Draft BenchmarkSpec where
  name := "BenchmarkSpec"
  closed := false
  blank := ⟨none, none, none⟩
  fields := [
    { name := "platform"
      optional := false
      filled := (·.platform.isSome)
      read := fun draft text => do
        let (value, rest) ← Json.readString text
        return ({ draft with platform := some value }, rest) },
    { name := "benchmark"
      optional := false
      filled := (·.benchmark.isSome)
      read := fun draft text => do
        let (value, rest) ← Json.readString text
        return ({ draft with benchmark := some value }, rest) },
    { name := "expectations"
      optional := true
      filled := (·.expectations.isSome)
      read := fun draft text => do
        let (value, rest) ← Expectations.reader text
        return ({ draft with expectations := some value }, rest) }]
  finish := fun draft => do
    return {
      platform := ← Json.require "platform" draft.platform
      benchmark := ← Json.require "benchmark" draft.benchmark
      expectations := draft.expectations.getD .empty }

def reader : Json.Reader BenchmarkSpec := shape.read

end BenchmarkSpec

end RaceFarm
