import Harvest.CommandLine

/-!
Contract: the program. It reads the files that its arguments name, prints what the run
gives, and exits with its code.
-/

namespace Harvest.CommandLine

def readFile? (path : String) : IO (Option String) := do
  try
    return some (← IO.FS.readFile path)
  catch _ => return none

end Harvest.CommandLine

def main (arguments : List String) : IO UInt32 := do
  let mut files : List (String × String) := []
  for path in Harvest.CommandLine.filesOf arguments do
    if let some text ← Harvest.CommandLine.readFile? path then
      files := (path, text) :: files
  let answer := Harvest.CommandLine.run (fun path => files.lookup path) arguments
  IO.print answer.output
  return answer.exitCode.toUInt32
