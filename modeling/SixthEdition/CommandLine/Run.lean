/-
This file holds what the program does with a command line that has been read: it
sets up the system, reads kernel memory through the standard switch, and gives
the text to print or the failure to report.
-/

import SixthEdition.CommandLine.Options
import SixthEdition.Description.Build
import SixthEdition.Description.Reader
import SixthEdition.ProcessListing
import SixthEdition.MemoryDump

namespace SixthEdition.CommandLine

/-! ### Tasks -/

/-- The text that a task produces. -/
def Task.text : Task → Reading String
  | .list form => return ProcessListing.render form (← KernelReader.entries)
  | .peek offset length => do
    let bytes ← KernelReader.peek offset length
    return MemoryDump.render offset bytes

/-- Opens kernel memory, does the task, and closes kernel memory again. -/
def Task.session (task : Task) : Reading String := do
  KernelReader.openMemory
  let text ← task.text
  KernelReader.closeMemory
  return text

/-- Does the task on a system behind the standard switch. -/
def Task.run (task : Task) (tables : Tables) : Except ReadFault String :=
  (task.session.run { switch := .standard, kernel := { tables } }).1

/-! ### Failures -/

inductive Failure where
  /-- The file cannot be read, or holds no description. -/
  | unloadable (path : String)
  | undescribable (fault : BuildFault)
  | unreadable (fault : ReadFault)
  /-- The program has broken off. -/
  | overflow
  deriving DecidableEq

/-- The line that says what failed. -/
def Failure.context : Failure → String
  | .unloadable path => "failed to load " ++ path
  | .undescribable _ => "invalid system description"
  | .unreadable _ => "cannot read kernel memory"
  | .overflow => "capacity overflow"

/-- Why it failed, outermost first, as far as it is known. -/
def Failure.causes : Failure → List String
  | .unloadable _ => []
  | .undescribable fault => fault.message :: fault.causes
  | .unreadable fault => [fault.message]
  | .overflow => []

/-- The status with which the program ends. -/
def Failure.exitStatus : Failure → UInt32
  | .unloadable _ | .undescribable _ | .unreadable _ => 1
  | .overflow => 101

/-! ### The program -/

def versionText : String := "v6-ps 0.1.0\n"

def helpText : String :=
  "List the processes of an emulated V6 system through its kernel-memory device\n\n" ++
  "Usage: v6-ps [--config PATH] [-l|--long] [-V|--version] [peek --offset ADDR [--len N]]\n"

/-- The description at a path, given what the file holds, or none where it cannot be read. -/
def load (path : String) (contents : Option ByteArray) : Except Failure Description :=
  match (contents.bind String.fromUTF8?).bind Description.parse? with
  | some description => .ok description
  | none => .error (.unloadable path)

/-- Runs a plan, given what each path holds. -/
def Plan.run (plan : Plan) (contents : String → Option ByteArray) : Except Failure String := do
  let description ←
    match plan.config with
    | some path => load path (contents path)
    | none => .ok .sample
  match description.build with
  | .error fault => throw (.undescribable fault)
  | .ok tables =>
    match plan.task.run tables with
    | .error .capacityOverflow => throw .overflow
    | .error fault => throw (.unreadable fault)
    | .ok text => return text

end SixthEdition.CommandLine
