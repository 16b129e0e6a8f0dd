/-
This file holds the program: it reads the command line, the environment and the
file of the system description, and prints what comes of them.
-/

import SixthEdition.CommandLine.Run

namespace SixthEdition.CommandLine

/-- What a file holds, if it can be read. -/
def contents? (path : String) : IO (Option ByteArray) := do
  try
    return some (← IO.FS.readBinFile path)
  catch _ =>
    return none

/-- Reports a failure with its causes. -/
def report (failure : Failure) : IO Unit := do
  IO.eprintln ("Error: " ++ failure.context)
  unless failure.causes.isEmpty do
    IO.eprintln "\nCaused by:"
    for cause in failure.causes do
      IO.eprintln ("    " ++ cause)

end SixthEdition.CommandLine

open SixthEdition.CommandLine

def main (arguments : List String) : IO UInt32 := do
  let environment ← IO.getEnv "V6_PS_CONFIG"
  match plan environment arguments with
  | .error .version =>
    IO.print versionText
    return 0
  | .error .help =>
    IO.print helpText
    return 0
  | .error (.usage address) =>
    if let some fault := address then
      IO.eprintln ("error: " ++ fault.message)
    IO.eprint helpText
    return 2
  | .ok plan =>
    let file ← match plan.config with
      | some path => contents? path
      | none => pure none
    match plan.run fun _ => file with
    | .ok text =>
      IO.print text
      return 0
    | .error failure =>
      report failure
      return failure.exitStatus
