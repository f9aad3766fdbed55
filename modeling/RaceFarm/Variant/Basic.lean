import RaceFarm.Json.Basic

namespace RaceFarm

inductive Os where
  | linux
  | windows
deriving DecidableEq, Ord

namespace Os

def name : Os → String
  | linux => "linux"
  | windows => "windows"

def ofName? (name : String) : Option Os :=
  [linux, windows].find? (·.name = name)

end Os

inductive Bits where
  | x32
  | x64
deriving DecidableEq, Ord

namespace Bits

def width : Bits → Nat
  | x32 => 32
  | x64 => 64

/-- The architecture as file names and make arguments spell it. -/
def arch : Bits → String
  | x32 => "x86"
  | x64 => "amd64"

def ofWidth? (width : Nat) : Option Bits :=
  [x32, x64].find? (·.width = width)

end Bits

inductive OptLevel where
  | o0
  | o1
deriving DecidableEq, Ord

namespace OptLevel

def level : OptLevel → Nat
  | o0 => 0
  | o1 => 1

def ofLevel? (level : Nat) : Option OptLevel :=
  [o0, o1].find? (·.level = level)

end OptLevel

/-- A tag begins with a dash, is longer than that, and cannot be taken for the static marker or for
    the start of a file extension. -/
def Suffix.accepts (text : String) : Bool :=
  match text.toList with
  | '-' :: rest => !rest.isEmpty && !rest.contains '.' && !"static".toList.isPrefixOf rest
  | _ => false

/-- A tag at the end of a build's name, such as `-PIC`. -/
structure Suffix where
  text : String
  accepted : Suffix.accepts text = true
deriving DecidableEq

namespace Suffix

def ofText? (text : String) : Option Suffix :=
  if h : accepts text = true then some ⟨text, h⟩ else none

def pic : Suffix := ⟨"-PIC", by decide⟩

instance : Ord Suffix := ⟨fun a b => compare a.text b.text⟩

end Suffix

/-- One point of the build matrix; all of it together identifies a build. -/
structure Variant where
  os : Os
  bits : Bits
  opt : OptLevel
  static : Bool
  suffix : Option Suffix
deriving DecidableEq, Ord

namespace Variant

def plain (os : Os) (bits : Bits) (opt : OptLevel) (static : Bool) : Variant :=
  { os, bits, opt, static, suffix := none }

def tagged (v : Variant) (suffix : Suffix) : Variant :=
  { v with suffix := some suffix }

def untagged (v : Variant) : Variant :=
  { v with suffix := none }

/-- Ascending by system, width, level, linkage and tag, each variant once. -/
def sorted (variants : List Variant) : List Variant :=
  (variants.mergeSort fun v w => (compare v w).isLE).eraseReps

def toJson (v : Variant) : Json :=
  .object [
    ("os", .str v.os.name),
    ("bits", .whole v.bits.width),
    ("opt", .whole v.opt.level),
    ("static", .bool v.static),
    ("extra_suffix", Json.optional (.str ·.text) v.suffix)]

end Variant

end RaceFarm
