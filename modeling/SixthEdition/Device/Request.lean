/-
This file holds what a program asks of a device and what it gets back. A reply
always has all of its parts: a device that does not touch one of them hands back
what the program gave.
-/

import SixthEdition.Kernel

namespace SixthEdition.Device

inductive Request where
  | openFor (mode : OpenMode)
  /-- Read from an offset into a buffer that has a content already. -/
  | read (offset : Nat) (buffer : Bytes)
  | write (offset : Nat) (bytes : Bytes)
  | close
  /-- Set a line, then report its settings in place of those in `report`. Each is optional. -/
  | control (set report : Option Terminal.Settings)
  deriving DecidableEq

structure Reply where
  /-- The number of bytes transferred. -/
  count : Nat := 0
  /-- What the program's buffer holds now. -/
  buffer : Bytes := []
  report : Option Terminal.Settings := none
  deriving DecidableEq

/-- The reply of a device that transfers nothing: buffer and report stay as they were. -/
def Request.untouched : Request → Reply
  | .read _ buffer => { buffer }
  | .control _ report => { report }
  | _ => {}

/-- Refuses a request: the reply transfers nothing and the code goes into the slot. -/
def refuse (code : ErrorNumber) (request : Request) (kernel : Kernel) : Reply × Kernel :=
  (request.untouched, kernel.fail code)

end SixthEdition.Device
