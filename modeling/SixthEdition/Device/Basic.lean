/-
This file holds the devices. Each serves a request for one of its units, and
reports an error only in the kernel's error slot.
-/

import SixthEdition.Device.Line
import SixthEdition.Device.Memory

namespace SixthEdition

inductive Device where
  /-- The device behind every number that has no other. -/
  | error
  | null
  | memory
  | terminal
  deriving DecidableEq

namespace Device

def name : Device → String
  | .error => "err"
  | .null => "null"
  | .memory => "mem"
  | .terminal => "tty"

def ofName? (name : String) : Option Device :=
  [error, null, memory, terminal].find? (·.name == name)

/-- The error device fails each request; only terminal control fails in its own way. -/
def serveError (request : Request) (kernel : Kernel) : Reply × Kernel :=
  match request with
  | .control .. => refuse .enotty request kernel
  | _ => refuse .enxio request kernel

/-- The null device is always at its end when read, and takes all that is written to it. -/
def serveNull (request : Request) (kernel : Kernel) : Reply × Kernel :=
  match request with
  | .write _ bytes => ({ count := bytes.length }, kernel)
  | .control .. => refuse .enotty request kernel
  | _ => (request.untouched, kernel)

def serve (device : Device) (unit : UInt8) (request : Request) (kernel : Kernel) :
    Reply × Kernel :=
  match device with
  | .error => serveError request kernel
  | .null => serveNull request kernel
  | .memory => Memory.serve request kernel
  | .terminal => Line.serve unit.toNat request kernel

end Device

end SixthEdition
