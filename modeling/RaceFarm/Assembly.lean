import RaceFarm.Build
import RaceFarm.Checker.RaceVerifier
import RaceFarm.Step.Stock

namespace RaceFarm

structure Pipeline where
  steps : List Step
deriving DecidableEq

def Pipeline.toJson (p : Pipeline) : Json :=
  .object [("steps", .list (p.steps.map Step.toJson))]

/-- A variant whose binary is there to be tested. -/
structure BuiltVariant where
  variant : Variant
  /-- The variant as the descriptions of steps show it. -/
  description : String
deriving DecidableEq

def Build.product (b : Build) : BuiltVariant :=
  { variant := b.variant, description := b.variant.describe }

/-- What a build was requested with, apart from its variant. -/
structure BuildParameters where
  pic : Bool
  extraArgs : List String
deriving DecidableEq

/-- A pipeline in the making, and the variants whose binaries its tests can run: those it builds and
    those that come from elsewhere. -/
structure Assembly where
  base : String
  steps : List Step
  built : List (Variant × BuildParameters)
  prebuilt : List Variant

inductive Order where
  | step (step : Step)
  | prebuilt (variants : List Variant)
  | build (request : BuildRequest)
  | test (variant : Variant) (config : CheckerConfig)
  | raceVerifier (variant : Variant) (config : CheckerConfig) (verifier : RaceVerifier)
  | toolTests (targets : List String)

namespace Assembly

def start (base : String) : Assembly :=
  { base, steps := [], built := [], prebuilt := [] }

def addSteps (a : Assembly) (steps : List Step) : Assembly :=
  { a with steps := a.steps ++ steps }

def declare (a : Assembly) (variants : List Variant) : Assembly :=
  { a with prebuilt := a.prebuilt ++ variants }

def buildStep (b : Build) : Step :=
  Step.run .compile b.command ("building unittests " ++ b.product.description)
    ("build unittests " ++ b.product.description)

/-- Adds a build and answers with the variant to test. A variant that is already built with the same
    parameters is not built again; with others it would be the wrong binary. -/
def build (a : Assembly) (r : BuildRequest) : Assembly × Except ConfigError BuiltVariant :=
  match r.build with
  | .error error => (a, .error error)
  | .ok b =>
    let parameters : BuildParameters := { pic := r.pic, extraArgs := r.extraArgs }
    match a.built.lookup b.variant with
    | some earlier =>
      if earlier = parameters then (a, .ok b.product)
      else (a, .error (.conflictingBuild b.variant))
    | none =>
      ({ a with
          steps := a.steps ++ [buildStep b]
          built := a.built ++ [(b.variant, parameters)] }, .ok b.product)

def isAvailable (a : Assembly) (v : Variant) : Bool :=
  (a.built.lookup v).isSome || a.prebuilt.contains v

def checkTestable (a : Assembly) (v : Variant) (c : CheckerConfig) : Except ConfigError Unit :=
  if ¬c.frontend.supports v.os then .error (.frontendOsMismatch c.frontend v.os)
  else if ¬a.isAvailable v then .error (.missingBuild v)
  else .ok ()

def testStep (base : String) (v : Variant) (c : CheckerConfig) (pass : String)
    (i : Invocation) : Step :=
  let target := i.label ++ " on " ++ base ++ " " ++ v.describe ++ pass
  (Step.ofAction (.command .test i.command i.env) ("testing " ++ target)
    ("test " ++ target)).withTimeout c.timeout

/-- Adds one run of the checker; `pass` ends the step's description. -/
def addTest (a : Assembly) (v : Variant) (c : CheckerConfig) (pass : String) :
    Assembly × Except ConfigError Unit :=
  match a.checkTestable v c with
  | .error error => (a, .error error)
  | .ok () =>
    match c.invoke (v.binaryPath a.base) with
    | .error error => (a, .error error)
    | .ok i => (a.addSteps [testStep a.base v c pass i], .ok ())

/-- Adds both passes, which share their log file, one right after the other. -/
def addRaceVerifier (a : Assembly) (v : Variant) (c : CheckerConfig) (verifier : RaceVerifier) :
    Assembly × Except ConfigError Unit :=
  match a.checkTestable v c with
  | .error error => (a, .error error)
  | .ok () =>
    match a.addTest v (verifier.firstPass c) " RV 1st pass" with
    | (a, .error error) => (a, .error error)
    | (a, .ok ()) => a.addTest v (verifier.secondPass c) " RV 2nd pass"

def addToolTests (a : Assembly) : List String → Assembly × Except ConfigError Unit
  | [] => (a, .error .emptyToolTests)
  | first :: others => (a.addSteps (Step.toolTests first others), .ok ())

/-- Carries out an order; a build answers with the variant to test. -/
def perform (a : Assembly) : Order → Assembly × Except ConfigError (Option BuiltVariant)
  | .step step => (a.addSteps [step], .ok none)
  | .prebuilt variants => (a.declare variants, .ok none)
  | .build request =>
    let (a, answer) := a.build request
    (a, answer.map some)
  | .test variant config =>
    let (a, answer) := a.addTest variant config ""
    (a, answer.map fun _ => none)
  | .raceVerifier variant config verifier =>
    let (a, answer) := a.addRaceVerifier variant config verifier
    (a, answer.map fun _ => none)
  | .toolTests targets =>
    let (a, answer) := a.addToolTests targets
    (a, answer.map fun _ => none)

/-- Carries out orders in turn, passing over those that fail. -/
def performAll (a : Assembly) (orders : List Order) : Assembly :=
  orders.foldl (fun a order => (a.perform order).1) a

/-- Carries out orders up to the first that fails. -/
def follow (a : Assembly) : List Order → Except ConfigError Assembly
  | [] => .ok a
  | order :: orders =>
    match a.perform order with
    | (_, .error error) => .error error
    | (a, .ok _) => a.follow orders

def finish (a : Assembly) : Pipeline := ⟨a.steps⟩

end Assembly

end RaceFarm
