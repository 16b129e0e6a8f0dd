/-
This file holds readers of kernel memory. A reader makes its calls through the
device switch and looks into the error slot after each of them, so that a
failing device shows as a fault of the read and not as a short count. Looking
empties the slot; whatever else a failed call did to the tables stays done.

A buffer of any length may be asked for, but none is had above a fixed length.
To ask for more is not an error that a caller can handle: it ends the program.
-/

import SixthEdition.DeviceSwitch

namespace SixthEdition

/-- The call in which a device failed. -/
inductive KernelCall where
  | opening
  | read
  | swapRead
  | closing
  deriving DecidableEq

def KernelCall.text : KernelCall → String
  | .opening => "open"
  | .read => "read"
  | .swapRead => "swap read"
  | .closing => "close"

inductive ReadFault where
  | device (call : KernelCall) (code : ErrorNumber)
  /-- The word that names the swap device was read with this count. -/
  | swapProbe (found : Nat)
  | record (fault : RecordFault)
  /-- There is no buffer of the length that was asked for. This one is not returned: the program
  breaks off. -/
  | capacityOverflow
  deriving DecidableEq

def ReadFault.message : ReadFault → String
  | .device call code => "kernel memory " ++ call.text ++ " failed: " ++ code.text
  | .swapProbe found =>
    "swap device probe returned " ++ String.ofList (Numeral.decimal found) ++
      " bytes, expected 2"
  | .record fault => fault.message
  | .capacityOverflow => "capacity overflow"

structure KernelReader where
  switch : DeviceSwitch
  kernel : Kernel
  /-- The swap device, once it has been looked up. -/
  swap : Option DeviceNumber := none

/-- A computation that reads kernel memory and may fail or break off. -/
abbrev Reading := ExceptT ReadFault (StateM KernelReader)

namespace KernelReader

/-- The kernel memory device. -/
def device : DeviceNumber :=
  ⟨Major.memory, 0⟩

/-- Makes a request of a device, whatever becomes of it. -/
def request (device : DeviceNumber) (request : Device.Request) : Reading Device.Reply :=
  modifyGet fun reader =>
    let (reply, kernel) := reader.switch.request device request reader.kernel
    (reply, { reader with kernel })

/-- Fails with the error that the slot holds, and empties the slot. -/
def check (call : KernelCall) : Reading Unit := do
  let error ← modifyGet fun reader =>
    let (error, kernel) := reader.kernel.takeError
    (error, { reader with kernel })
  match error with
  | some code => throw (.device call code)
  | none => return ()

def openMemory : Reading Unit := do
  let _ ← request device (.openFor .read)
  check .opening

def closeMemory : Reading Unit := do
  let _ ← request device .close
  check .closing

/-- Reads at an offset into a buffer. -/
def read (offset : Nat) (buffer : Bytes) : Reading Device.Reply := do
  let reply ← request device (.read offset buffer)
  check .read
  return reply

/-- The most bytes that a buffer can have: offsets inside of it are signed words of 64 bits. -/
def bufferLimit : Nat := 0x7fffffffffffffff

/-- A buffer of zeros. -/
def allocate (length : Nat) : Reading Bytes :=
  if bufferLimit < length then throw .capacityOverflow
  else return List.replicate length 0

/-- The bytes found at an offset, at most `length` of them. The buffer is had before the device is
asked. -/
def peek (offset length : Nat) : Reading Bytes := do
  let buffer ← allocate length
  let reply ← read offset buffer
  return reply.buffer.take reply.count

end KernelReader

end SixthEdition
