/-
This file holds the tables that all calls share: the processes and the
terminals. Entries are added at the end and stay where they are; attaching a
terminal to a process stores the address of the terminal's header in the
process's record, so that a reader of kernel memory can follow it. A call gives
its result and the tables that it leaves, also where it fails.
-/

import SixthEdition.AddressMap
import SixthEdition.Process.Basic
import SixthEdition.Table
import SixthEdition.Terminal.Action

namespace SixthEdition

structure Tables where
  processes : Table Process AddressMap.processSlots
  terminals : Table Terminal AddressMap.terminalSlots

inductive TablesFault where
  | processTableFull
  | terminalTableFull
  | noSuchProcess (slot : Nat)
  | noSuchTerminal (unit : Nat)
  | argumentsTooLarge (fault : Arguments.TooLarge)
  deriving DecidableEq

def TablesFault.message : TablesFault → String
  | .processTableFull =>
    "process table full (" ++ String.ofList (Numeral.decimal AddressMap.processSlots) ++
      " slots)"
  | .terminalTableFull =>
    "terminal table full (" ++ String.ofList (Numeral.decimal AddressMap.terminalSlots) ++
      " slots)"
  | .noSuchProcess slot => "no process at index " ++ String.ofList (Numeral.decimal slot)
  | .noSuchTerminal unit => "no terminal at index " ++ String.ofList (Numeral.decimal unit)
  | .argumentsTooLarge fault => fault.message

namespace Tables

def empty : Tables :=
  ⟨.empty, .empty⟩

/-- Adds a process and gives its slot. -/
def addProcess (process : Process) (tables : Tables) : Except TablesFault Nat × Tables :=
  match tables.processes.add? process with
  | none => (.error .processTableFull, tables)
  | some (slot, processes) => (.ok slot, { tables with processes })

/-- Adds a terminal and gives its unit number. -/
def addTerminal (terminal : Terminal) (tables : Tables) : Except TablesFault Nat × Tables :=
  match tables.terminals.add? terminal with
  | none => (.error .terminalTableFull, tables)
  | some (unit, terminals) => (.ok unit, { tables with terminals })

def modifyProcess (slot : Nat) (change : Process → Process) (tables : Tables) : Tables :=
  { tables with processes := tables.processes.modify slot change }

def modifyTerminal (unit : Nat) (change : Terminal → Terminal) (tables : Tables) : Tables :=
  { tables with terminals := tables.terminals.modify unit change }

/-- Makes a terminal the controlling terminal of a process. Where both are missing, the terminal
is the one reported. -/
def attach (slot unit : Nat) (tables : Tables) : Except TablesFault Unit × Tables :=
  if tables.terminals.size ≤ unit then (.error (.noSuchTerminal unit), tables)
  else if tables.processes.size ≤ slot then (.error (.noSuchProcess slot), tables)
  else
    (.ok (), tables.modifyProcess slot fun process =>
      { process with record.terminal := UInt16.ofNat (AddressMap.terminal unit) })

end Tables

end SixthEdition
