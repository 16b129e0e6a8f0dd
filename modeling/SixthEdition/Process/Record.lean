/-
This file holds the process record: one slot of the process table, with its
fields in the order and at the widths in which kernel memory shows them.
-/

import SixthEdition.FlagTable
import SixthEdition.Process.Status
import SixthEdition.RecordKind

namespace SixthEdition

/-- The flags of a process. Bits without a name are kept. -/
structure ProcessFlags where
  bits : UInt8
  deriving DecidableEq

namespace ProcessFlags

/-- The image is in core. -/
def loaded : ProcessFlags := ⟨0o1⟩

/-- The process is the scheduler. -/
def system : ProcessFlags := ⟨0o2⟩

def declared : FlagTable :=
  ⟨[⟨"SLOAD", 0o1⟩, ⟨"SSYS", 0o2⟩, ⟨"SLOCK", 0o4⟩, ⟨"SSWAP", 0o10⟩, ⟨"STRC", 0o20⟩,
    ⟨"SWTED", 0o40⟩]⟩

/-- Whether all bits of `mask` are set. -/
def has (flags mask : ProcessFlags) : Bool :=
  flags.bits &&& mask.bits == mask.bits

/-- The flags with those of `mask` set as well. -/
def adding (flags mask : ProcessFlags) : ProcessFlags :=
  ⟨flags.bits ||| mask.bits⟩

end ProcessFlags

structure ProcessRecord where
  status : UInt8 := 0
  flags : ProcessFlags := ⟨0⟩
  priority : Int8 := 0
  signal : UInt8 := 0
  user : UInt8 := 0
  residence : UInt8 := 0
  cpu : UInt8 := 0
  nice : Int8 := 0
  /-- The address of the controlling terminal's header, zero for none. -/
  terminal : UInt16 := 0
  id : UInt16 := 0
  parent : UInt16 := 0
  /-- The address of the image, in clicks. -/
  address : UInt16 := 0
  /-- The size of the image, in clicks. -/
  size : UInt16 := 0
  waitChannel : UInt16 := 0
  text : UInt16 := 0
  deriving DecidableEq

namespace ProcessRecord

def toBytes (record : ProcessRecord) : Bytes :=
  [record.status, record.flags.bits, record.priority.toUInt8, record.signal, record.user,
      record.residence, record.cpu, record.nice.toUInt8] ++
    Word.toBytes record.terminal ++ Word.toBytes record.id ++ Word.toBytes record.parent ++
    Word.toBytes record.address ++ Word.toBytes record.size ++ Word.toBytes record.waitChannel ++
    Word.toBytes record.text

/-- Writes the record behind what has been written. -/
def appendTo (written : Bytes) (record : ProcessRecord) : Bytes :=
  written ++ record.toBytes

/-- The fields at their positions, whatever the length of the string. -/
def fields (bytes : Bytes) : ProcessRecord where
  status := bytes.byteAt 0
  flags := ⟨bytes.byteAt 1⟩
  priority := (bytes.byteAt 2).toInt8
  signal := bytes.byteAt 3
  user := bytes.byteAt 4
  residence := bytes.byteAt 5
  cpu := bytes.byteAt 6
  nice := (bytes.byteAt 7).toInt8
  terminal := bytes.wordAt 8
  id := bytes.wordAt 10
  parent := bytes.wordAt 12
  address := bytes.wordAt 14
  size := bytes.wordAt 16
  waitChannel := bytes.wordAt 18
  text := bytes.wordAt 20

def ofBytes (bytes : Bytes) : Except RecordFault ProcessRecord :=
  RecordKind.decode .process fields bytes

/-- The scheduling state, if the number stands for one. -/
def status? (record : ProcessRecord) : Option ProcessStatus :=
  ProcessStatus.ofNumber? record.status

end ProcessRecord

end SixthEdition
