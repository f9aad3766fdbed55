import RaceFarm.CommandLine.Answer

namespace RaceFarm.CommandLine

def fileSystem : Disk IO where
  read path := do
    try
      return some (← IO.FS.readFile path)
    catch _ =>
      return none
  write path text := do
    try
      IO.FS.writeFile path text
      return true
    catch _ =>
      return false

end RaceFarm.CommandLine

def main (args : List String) : IO UInt32 := do
  let answer ← RaceFarm.CommandLine.answer RaceFarm.CommandLine.fileSystem args
  match answer with
  | .done _ output => IO.print output
  | .failed error => IO.eprintln ("Error: " ++ error.message)
  | .misused misuse => IO.eprintln ("error: " ++ misuse.message)
  return answer.code.toUInt32
