/-
This file holds the device switch, which finds the device for a major number.
Major number zero is always the error device, and so is any number that no
device has been registered for, so that each request finds a device.
-/

import SixthEdition.Device.Basic

namespace SixthEdition

/-- The slots of the major numbers from one on. -/
structure DeviceSwitch where
  slots : List (Option Device)
  deriving DecidableEq

inductive RegistrationFault where
  | reservedMajor
  | duplicate (major : UInt8)
  deriving DecidableEq

def RegistrationFault.message : RegistrationFault → String
  | .reservedMajor => "major 0 is reserved for the error device"
  | .duplicate major =>
    "major " ++ String.ofList (Numeral.decimal major.toNat) ++ " is already registered"

namespace DeviceSwitch

/-- Only the error device. -/
def bare : DeviceSwitch :=
  ⟨[]⟩

/-- Null, kernel memory, null again in place of a swap device, and terminals. -/
def standard : DeviceSwitch :=
  ⟨[some .null, some .memory, some .null, some .terminal]⟩

/-- The number of slots, with that of major number zero. -/
def size (switch : DeviceSwitch) : Nat :=
  switch.slots.length + 1

/-- The device registered for a major number, if there is one. -/
def registered? (switch : DeviceSwitch) (major : UInt8) : Option Device :=
  match major.toNat with
  | 0 => none
  | slot + 1 => switch.slots[slot]?.join

def resolve (switch : DeviceSwitch) (major : UInt8) : Device :=
  (switch.registered? major).getD .error

/-- Registers a device, with empty slots up to its own where the switch is shorter. -/
def register (switch : DeviceSwitch) (major : UInt8) (device : Device) :
    Except RegistrationFault DeviceSwitch :=
  match major.toNat with
  | 0 => .error .reservedMajor
  | slot + 1 =>
    if (switch.registered? major).isSome then .error (.duplicate major)
    else
      let slots := switch.slots ++ List.replicate (slot + 1 - switch.slots.length) none
      .ok ⟨slots.set slot (some device)⟩

/-- Registers devices one after the other, up to the first that cannot be. -/
def ofRegistrations (registrations : List (UInt8 × Device)) :
    Except RegistrationFault DeviceSwitch :=
  registrations.foldlM (fun switch (major, device) => switch.register major device) bare

/-- Makes a request of the device that a device number stands for. -/
def request (switch : DeviceSwitch) (device : DeviceNumber) (request : Device.Request)
    (kernel : Kernel) : Device.Reply × Kernel :=
  (switch.resolve device.major).serve device.minor request kernel

end DeviceSwitch

/-! ### The major numbers of the standard switch -/

namespace Major

def error : UInt8 := 0

def null : UInt8 := 1

def memory : UInt8 := 2

def swap : UInt8 := 3

def terminal : UInt8 := 4

end Major

end SixthEdition
