/-
This file holds what a process lister reads from kernel memory: the swap device,
the records in the process table, and for each of them the page at the top of
its image and the number of its terminal.
-/

import SixthEdition.CommandText
import SixthEdition.KernelReader.Basic

namespace SixthEdition

/-- One process as a lister finds it. -/
structure ProcessEntry where
  record : ProcessRecord
  terminal : Option DeviceNumber
  /-- The command line; none if the image cannot be read or holds no arguments. -/
  command : Option String
  deriving DecidableEq

namespace KernelReader

/-- Looks up the swap device and keeps its number. -/
def probeSwap : Reading DeviceNumber := do
  let reply ← read AddressMap.swapDevice [0, 0]
  if reply.count = 2 then
    let number := DeviceNumber.ofWord (reply.buffer.wordAt 0)
    modify fun reader => { reader with swap := some number }
    return number
  else throw (.swapProbe reply.count)

/-- The records of the slots that are in use. -/
def records : Reading (List ProcessRecord) := do
  let size := AddressMap.processSlots * AddressMap.processRecordSize
  let reply ← read AddressMap.processTable (List.replicate size 0)
  let rows := reply.buffer.rows AddressMap.processRecordSize
  match rows.mapM ProcessRecord.ofBytes with
  | .ok records => return records.filter (·.status ≠ 0)
  | .error fault => throw (.record fault)

/-- Where the page at the top of an image starts: one page below its end. No page lies below
the start of core. -/
def pageOffset? (record : ProcessRecord) : Option Nat :=
  let clicks := record.address.toNat + record.size.toNat
  if clicks < 8 then none else some ((clicks - 8) * AddressMap.clickSize)

/-- The page at the top of a process image, from core or else from the swap device. None if it
cannot be had in full. -/
def topPage (record : ProcessRecord) : Reading (Option Bytes) := do
  let blank := List.replicate AddressMap.imagePageSize 0
  match pageOffset? record with
  | none => return none
  | some offset =>
    if record.flags.has .loaded then
      let reply ← read offset blank
      return if reply.count = blank.length then some reply.buffer else none
    else
      match (← get).swap with
      | none => return none
      | some swap =>
        let reply ← request swap (.read offset blank)
        check .swapRead
        return if reply.count = blank.length then some reply.buffer else none

/-- Whether a word is the address of a terminal header. -/
def isTerminalAddress (address : Nat) : Bool :=
  decide (AddressMap.terminalTable ≤ address) &&
    decide (address < AddressMap.terminal AddressMap.terminalSlots) &&
    (address - AddressMap.terminalTable) % AddressMap.terminalRecordSize == 0

/-- The device number in the terminal header at an address, if there is one. -/
def terminalAt (address : UInt16) : Reading (Option DeviceNumber) := do
  if isTerminalAddress address.toNat then
    let reply ← read address.toNat (List.replicate AddressMap.terminalRecordSize 0)
    if reply.count = AddressMap.terminalRecordSize then
      match Terminal.Header.ofBytes reply.buffer with
      | .ok header => return some header.deviceNumber
      | .error fault => throw (.record fault)
    else return none
  else return none

/-- The command line of a process. Zombies and the swapper have no image to look into. -/
def command (record : ProcessRecord) : Reading (Option String) := do
  if record.status? = some .zombie then return some "<defunct>"
  else if record.id = 0 then return some "swapper"
  else return (← topPage record).bind CommandText.ofPage?

def entry (record : ProcessRecord) : Reading ProcessEntry := do
  let command ← command record
  let terminal ← terminalAt record.terminal
  return { record, terminal, command }

/-- All processes, in the order of their slots. -/
def entries : Reading (List ProcessEntry) := do
  let _ ← probeSwap
  (← records).mapM entry

end KernelReader

end SixthEdition
