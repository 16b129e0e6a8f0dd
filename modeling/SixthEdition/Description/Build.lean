/-
This file holds the building of a system from its description. Images lie in
core one after the other, in whole clicks. The first fault ends the building:
first too many terminals, then too many processes, then the faults of each
process in its turn.
-/

import SixthEdition.Description.Basic
import SixthEdition.DeviceSwitch

namespace SixthEdition

inductive BuildFault where
  | tooManyTerminals (count : Nat)
  | tooManyProcesses (count : Nat)
  | imageTooLarge (id : UInt16) (size : Nat)
  | coreExhausted (id : UInt16)
  | unknownTerminal (id : UInt16) (unit : Nat)
  /-- The tables refuse a process. -/
  | process (id : UInt16) (cause : TablesFault)
  /-- The tables refuse a terminal. -/
  | tables (cause : TablesFault)
  deriving DecidableEq

namespace Description

/-- The largest number of clicks that a record can give as the size of an image. -/
def clickLimit : Nat := 65535

/-- The largest image that a record can describe, in bytes. -/
def imageLimit : Nat := clickLimit * AddressMap.clickSize

/-- The click at which the first image starts. -/
def firstClick : Nat := 0o1000

/-- The clicks that so many bytes take up. -/
def clicks (size : Nat) : Nat :=
  (size + (AddressMap.clickSize - 1)) / AddressMap.clickSize

end Description

def BuildFault.aboutProcess (id : UInt16) (text : String) : String :=
  "process " ++ String.ofList (Numeral.decimal id.toNat) ++ ": " ++ text

def BuildFault.message : BuildFault → String
  | .tooManyTerminals count =>
    String.ofList (Numeral.decimal count) ++ " terminals configured, at most " ++
      String.ofList (Numeral.decimal AddressMap.terminalSlots) ++ " supported"
  | .tooManyProcesses count =>
    String.ofList (Numeral.decimal count) ++ " processes configured, at most " ++
      String.ofList (Numeral.decimal AddressMap.processSlots) ++ " supported"
  | .imageTooLarge id size =>
    aboutProcess id ("image of " ++ String.ofList (Numeral.decimal size) ++
      " bytes exceeds the " ++ String.ofList (Numeral.decimal Description.imageLimit) ++
      "-byte limit")
  | .coreExhausted id => aboutProcess id "image does not fit below the top of core"
  | .unknownTerminal id unit =>
    aboutProcess id ("terminal " ++ String.ofList (Numeral.decimal unit) ++
      " is not configured")
  | .process id cause => aboutProcess id cause.message
  | .tables cause => cause.message

/-- The faults below this one: what the tables said of a process. -/
def BuildFault.causes : BuildFault → List String
  | .process _ cause => [cause.message]
  | _ => []

/-! ### Terminals -/

/-- The terminal that is described, under its unit number. -/
def TerminalDescription.terminal (description : TerminalDescription) (unit : Nat) : Terminal :=
  let fresh := Terminal.fresh ⟨Major.terminal, UInt8.ofNat unit⟩
  { fresh with
    header.modes := (description.modes.map Terminal.Modes.mk).getD fresh.header.modes
    header.speeds := description.speeds }

namespace Description

def addTerminal (tables : Tables) (unit : Nat) (description : TerminalDescription) :
    Except BuildFault Tables :=
  match tables.addTerminal (description.terminal unit) with
  | (.ok _, tables) => .ok tables
  | (.error cause, _) => .error (.tables cause)

def addTerminals (tables : Tables) (descriptions : List TerminalDescription) :
    Except BuildFault Tables :=
  descriptions.zipIdx.foldlM
    (fun tables (description, unit) => addTerminal tables unit description) tables

end Description

/-! ### Processes -/

namespace ProcessDescription

/-- The clicks that the image takes up. -/
def clicks (description : ProcessDescription) : Nat :=
  Description.clicks description.imageSize.toNat

/-- The record of the process when its image starts at a click. -/
def record (description : ProcessDescription) (start : Nat) : ProcessRecord where
  status := description.status.number
  flags := (ProcessFlags.mk description.flags).adding .loaded
  priority := description.priority
  user := description.user
  nice := description.nice
  id := description.id
  parent := description.parent
  address := UInt16.ofNat start
  size := UInt16.ofNat description.clicks
  waitChannel := description.waitChannel

/-- Checks the image against the width of a record's fields, and its end against the top of
core. -/
def checkSize (description : ProcessDescription) (start : Nat) : Except BuildFault Unit :=
  if Description.clickLimit < description.clicks then
    .error (.imageTooLarge description.id description.imageSize.toNat)
  else if Description.clickLimit < start + description.clicks then
    .error (.coreExhausted description.id)
  else .ok ()

/-- The process with its arguments laid out, before it has a terminal. -/
def process (description : ProcessDescription) (start : Nat) : Except BuildFault Process :=
  match (Process.blank (description.record start) description.imageSize.toNat).withArguments
      description.arguments with
  | .ok process => .ok process
  | .error fault => .error (.process description.id (.argumentsTooLarge fault))

/-- Connects the process, which is in a slot, to the terminal that the description asks for. -/
def connect (description : ProcessDescription) (slot : Nat) (tables : Tables) :
    Except BuildFault Tables :=
  match description.terminal with
  | none => .ok tables
  | some unit =>
    if tables.terminals.size ≤ unit.toNat then
      .error (.unknownTerminal description.id unit.toNat)
    else
      match tables.attach slot unit.toNat with
      | (.ok _, tables) => .ok tables
      | (.error cause, _) => .error (.process description.id cause)

end ProcessDescription

namespace Description

/-- Adds a process whose image starts at a click, and gives the click after the image. -/
def addProcess (state : Nat × Tables) (description : ProcessDescription) :
    Except BuildFault (Nat × Tables) := do
  let (start, tables) := state
  description.checkSize start
  let process ← description.process start
  match tables.addProcess process with
  | (.error cause, _) => throw (.process description.id cause)
  | (.ok slot, tables) =>
    return (start + description.clicks, ← description.connect slot tables)

/-! ### Systems -/

/-- The tables that the description asks for. -/
def build (description : Description) : Except BuildFault Tables := do
  if AddressMap.terminalSlots < description.terminals.length then
    throw (.tooManyTerminals description.terminals.length)
  if AddressMap.processSlots < description.processes.length then
    throw (.tooManyProcesses description.processes.length)
  let tables ← addTerminals .empty description.terminals
  let (_, tables) ← description.processes.foldlM addProcess (firstClick, tables)
  return tables

end Description

end SixthEdition
