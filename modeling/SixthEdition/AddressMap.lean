/-
This file holds the addresses at which kernel memory shows its tables. Readers
find the tables by these fixed numbers, written in octal as in a kernel
listing. The windows lie apart for every size that the tables can have: the
swap device number, the terminal headers, the process table, the process images.
-/

import SixthEdition.DeviceNumber

namespace SixthEdition.AddressMap

/-- Where the number of the swap device is stored. -/
def swapDevice : Nat := 0o1414

/-- The number found there: a unit of the null device stands in for swap. -/
def swapDeviceNumber : DeviceNumber := ⟨3, 1⟩

def terminalTable : Nat := 0o2000

def terminalRecordSize : Nat := 32

def terminalSlots : Nat := 9

def processTable : Nat := 0o5206

def processRecordSize : Nat := 22

def processSlots : Nat := 50

def imageTable : Nat := 0o10000

/-- The unit in which image addresses and sizes are counted. -/
def clickSize : Nat := 64

/-- The one length in which an image may be read. -/
def imagePageSize : Nat := 512

/-- The image size shown in every record, in clicks: just one page, so that the page at the top
of the image starts at the image's address. -/
def shownImageSize : UInt16 := 8

/-- The address of a terminal's header. -/
def terminal (unit : Nat) : Nat :=
  terminalTable + terminalRecordSize * unit

/-- A word has room for the address of each header that there can be. -/
theorem toNat_terminal {unit : Nat} (bounded : unit < terminalSlots) :
    (UInt16.ofNat (terminal unit)).toNat = 1024 + 32 * unit := by
  have small : unit < 9 := bounded
  exact UInt16.toNat_ofNat_of_lt' (show 1024 + 32 * unit < 65536 by omega)

/-- The address of a process's image. -/
def image (slot : Nat) : Nat :=
  imageTable + clickSize * slot

/-- The address of a process's image in clicks, as records show it. -/
def imageClick (slot : Nat) : UInt16 :=
  UInt16.ofNat (imageTable / clickSize + slot)

end SixthEdition.AddressMap
