/-
This file holds device numbers and open modes. A device number is one word: the
major number, which selects a device, in the high byte and the minor number,
which selects a unit of it, in the low byte.
-/

import SixthEdition.Bytes
import SixthEdition.FlagTable
import SixthEdition.Numeral

namespace SixthEdition

structure DeviceNumber where
  major : UInt8
  minor : UInt8
  deriving DecidableEq

namespace DeviceNumber

def word (device : DeviceNumber) : UInt16 :=
  (device.major.toUInt16 <<< 8) ||| device.minor.toUInt16

def ofWord (word : UInt16) : DeviceNumber :=
  ⟨(word >>> 8).toUInt8, word.toUInt8⟩

theorem ofWord_word (device : DeviceNumber) : ofWord device.word = device := by
  have bytes := Word.toBytes_ofBytes device.minor device.major
  rw [show Word.ofBytes device.minor device.major = device.word from UInt16.or_comm ..] at bytes
  obtain ⟨minor, rest⟩ := List.cons.inj bytes
  rw [ofWord, minor, (List.cons.inj rest).1]

/-- The word as it is stored: the minor number first. -/
def toBytes (device : DeviceNumber) : Bytes :=
  Word.toBytes device.word

def text (device : DeviceNumber) : String :=
  String.ofList
    (Numeral.decimal device.major.toNat ++ '/' :: Numeral.decimal device.minor.toNat)

/-- The form in which a record that holds the number is shown. -/
def inspected (device : DeviceNumber) : String :=
  "DevNum(" ++ String.ofList (Numeral.decimal device.major.toNat) ++ ", " ++
    String.ofList (Numeral.decimal device.minor.toNat) ++ ")"

/-- The number that a word of zeros stands for. -/
def zero : DeviceNumber := ⟨0, 0⟩

end DeviceNumber

/-- What a device is opened for. -/
structure OpenMode where
  bits : UInt8
  deriving DecidableEq

namespace OpenMode

def read : OpenMode := ⟨1⟩

def write : OpenMode := ⟨2⟩

def declared : FlagTable :=
  ⟨[⟨"READ", 1⟩, ⟨"WRITE", 2⟩]⟩

end OpenMode

end SixthEdition
