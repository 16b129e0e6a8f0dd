/-
This file holds the terminal device. The unit number picks a terminal from the
table, and each request is one operation of that terminal.
-/

import SixthEdition.Device.Request

namespace SixthEdition.Device.Line

/-- What one terminal does for a request. -/
def operate (request : Request) (terminal : Terminal) : Reply × Terminal :=
  match request with
  | .openFor _ => ({}, terminal.openLine)
  | .read _ buffer =>
    let (delivered, terminal) := terminal.read buffer.length
    ({ count := delivered.length, buffer := delivered.overlay buffer }, terminal)
  | .write _ bytes => ({ count := bytes.length }, terminal.write bytes)
  | .close => ({}, terminal.closeLine)
  | .control set report =>
    let terminal :=
      match set with
      | some settings => terminal.configure settings
      | none => terminal
    ({ report := report.map fun _ => terminal.settings }, terminal)

def serve (unit : Nat) (request : Request) (kernel : Kernel) : Reply × Kernel :=
  match kernel.tables.terminals.get? unit with
  | none => refuse .enxio request kernel
  | some terminal =>
    let (reply, terminal) := operate request terminal
    (reply, { kernel with tables := kernel.tables.modifyTerminal unit fun _ => terminal })

end SixthEdition.Device.Line
