import RaceFarm.Json.Decode
import RaceFarm.Variant.Basic

namespace RaceFarm

/-- How the race checker instruments a test binary. -/
inductive Frontend where
  | valgrind
  | pin
  | pinWin
deriving DecidableEq

namespace Frontend

def all : List Frontend := [valgrind, pin, pinWin]

def name : Frontend → String
  | valgrind => "valgrind"
  | pin => "pin"
  | pinWin => "pin-win"

def ofName? (name : String) : Option Frontend :=
  all.find? (·.name = name)

def wrappers : Frontend → List String
  | valgrind => ["./tsan.sh", "./tsan-debug.sh"]
  | pin => ["tsan/tsan_pin.sh"]
  | pinWin => ["out\\tsan-x86-windows\\tsan.bat", "out\\tsan-x86-windows\\tsan-debug.bat",
      "out\\tsan-x86-windows\\tsan_mt.bat"]

def supports : Frontend → Os → Bool
  | valgrind, os | pin, os => os = .linux
  | pinWin, os => os = .windows

def reader : Json.Reader Frontend :=
  Json.readChoice (all.map fun f => (f.name, f))

end Frontend

inductive Mode where
  /-- Pure happens-before. -/
  | phb
  /-- Lock sets together with happens-before. -/
  | hybrid
deriving DecidableEq

namespace Mode

def name : Mode → String
  | phb => "phb"
  | hybrid => "hybrid"

def ofName? (name : String) : Option Mode :=
  [phb, hybrid].find? (·.name = name)

def flag : Mode → String
  | phb => "--pure-happens-before=yes"
  | hybrid => "--pure-happens-before=no"

def reader : Json.Reader Mode :=
  Json.readChoice ([phb, hybrid].map fun m => (m.name, m))

end Mode

end RaceFarm
