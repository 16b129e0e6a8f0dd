/-
This file holds the writer of system descriptions. Every record is written as an
object with all of its fields, those at their default included.
-/

import SixthEdition.Description.Basic
import SixthEdition.Description.Schema
import SixthEdition.Json.Writer

namespace SixthEdition.Description

def natural (value : Nat) : Json :=
  .integer value

/-- A value, or null for none. -/
def nullable {Item : Type} (write : Item → Json) : Option Item → Json
  | none => .null
  | some item => write item

def recordJson (names : List String) (values : List Json) : Json :=
  .object (names.zip values)

def terminalJson (terminal : TerminalDescription) : Json :=
  recordJson terminalFields
    [nullable (fun modes => natural modes.toNat) terminal.modes, natural terminal.speeds.toNat]

def processJson (process : ProcessDescription) : Json :=
  recordJson processFields
    [natural process.id.toNat, natural process.parent.toNat, natural process.user.toNat,
      .string process.status.word, natural process.flags.toNat,
      .integer process.priority.toInt, .integer process.nice.toInt,
      nullable (fun unit => natural unit.toNat) process.terminal,
      .array (process.arguments.map .string), natural process.imageSize.toNat,
      natural process.waitChannel.toNat]

def toJson (description : Description) : Json :=
  recordJson descriptionFields
    [.array (description.terminals.map terminalJson),
      .array (description.processes.map processJson)]

def render (description : Description) : String :=
  description.toJson.render

end SixthEdition.Description
