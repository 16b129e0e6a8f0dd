/-
This file holds the terminal header: the part of a terminal that kernel memory
shows, with its fields in the order and at the widths shown.
-/

import SixthEdition.DeviceNumber
import SixthEdition.RecordKind

namespace SixthEdition.Terminal

/-! ### Control characters -/

def endOfText : UInt8 := 4

def backspace : UInt8 := 8

def tab : UInt8 := 9

def newline : UInt8 := 10

def carriageReturn : UInt8 := 13

def space : UInt8 := 32

/-- The erase character of a line that has just been opened: a number sign. -/
def defaultErase : UInt8 := 35

/-- The kill character of a line that has just been opened: an at sign. -/
def defaultKill : UInt8 := 64

/-! ### Flag words -/

/-- The modes that a program sets on a line. Bits without a name are kept. -/
structure Modes where
  bits : UInt16
  deriving DecidableEq

namespace Modes

def expandTabs : Modes := ⟨0o2⟩

def foldCase : Modes := ⟨0o4⟩

def echo : Modes := ⟨0o10⟩

/-- A carriage return reads as a newline, and a newline prints as both. -/
def mapReturn : Modes := ⟨0o20⟩

def raw : Modes := ⟨0o40⟩

def declared : FlagTable :=
  ⟨[⟨"HUPCL", 0o1⟩, ⟨"XTABS", 0o2⟩, ⟨"LCASE", 0o4⟩, ⟨"ECHO", 0o10⟩, ⟨"CRMOD", 0o20⟩,
    ⟨"RAW", 0o40⟩, ⟨"ODDP", 0o100⟩, ⟨"EVENP", 0o200⟩]⟩

/-- Whether all bits of `mask` are set. -/
def has (modes mask : Modes) : Bool :=
  modes.bits &&& mask.bits == mask.bits

def adding (modes mask : Modes) : Modes :=
  ⟨modes.bits ||| mask.bits⟩

end Modes

/-- The state of a line, which no program sets. Bits without a name are kept. -/
structure LineState where
  bits : UInt8
  deriving DecidableEq

namespace LineState

def isOpen : LineState := ⟨0o4⟩

def carrier : LineState := ⟨0o20⟩

def declared : FlagTable :=
  ⟨[⟨"TIMEOUT", 0o1⟩, ⟨"WOPEN", 0o2⟩, ⟨"ISOPEN", 0o4⟩, ⟨"SSTART", 0o10⟩, ⟨"CARR_ON", 0o20⟩,
    ⟨"BUSY", 0o40⟩, ⟨"ASLEEP", 0o100⟩]⟩

def has (state mask : LineState) : Bool :=
  state.bits &&& mask.bits == mask.bits

def adding (state mask : LineState) : LineState :=
  ⟨state.bits ||| mask.bits⟩

def without (state mask : LineState) : LineState :=
  ⟨state.bits &&& ~~~mask.bits⟩

end LineState

/-! ### The header -/

/-- What the header says of one character queue. Only the count has a meaning; the block numbers
are never set. -/
structure QueueHeader where
  count : Int16 := 0
  first : UInt16 := 0
  last : UInt16 := 0
  deriving DecidableEq

def QueueHeader.toBytes (queue : QueueHeader) : Bytes :=
  Word.toBytes queue.count.toUInt16 ++ Word.toBytes queue.first ++ Word.toBytes queue.last

/-- The queue whose count is at a position. -/
def QueueHeader.fieldsAt (position : Nat) (bytes : Bytes) : QueueHeader where
  count := (bytes.wordAt position).toInt16
  first := bytes.wordAt (position + 2)
  last := bytes.wordAt (position + 4)

structure Header where
  rawQueue : QueueHeader := {}
  canonicalQueue : QueueHeader := {}
  outputQueue : QueueHeader := {}
  modes : Modes
  address : UInt16 := 0
  /-- The complete lines that wait in the raw queue. -/
  delimiters : UInt8 := 0
  column : UInt8 := 0
  erase : UInt8
  kill : UInt8
  state : LineState := ⟨0⟩
  scratch : UInt8 := 0
  speeds : UInt16 := 0
  device : UInt16
  deriving DecidableEq

namespace Header

/-- The header of a line that nobody has used yet. -/
def fresh (device : DeviceNumber) : Header where
  modes := Modes.echo.adding .mapReturn
  erase := defaultErase
  kill := defaultKill
  device := device.word

def deviceNumber (header : Header) : DeviceNumber :=
  .ofWord header.device

def toBytes (header : Header) : Bytes :=
  header.rawQueue.toBytes ++ header.canonicalQueue.toBytes ++ header.outputQueue.toBytes ++
    Word.toBytes header.modes.bits ++ Word.toBytes header.address ++
    [header.delimiters, header.column, header.erase, header.kill, header.state.bits,
      header.scratch] ++
    Word.toBytes header.speeds ++ Word.toBytes header.device

/-- The fields at their positions, whatever the length of the string. -/
def fields (bytes : Bytes) : Header where
  rawQueue := .fieldsAt 0 bytes
  canonicalQueue := .fieldsAt 6 bytes
  outputQueue := .fieldsAt 12 bytes
  modes := ⟨bytes.wordAt 18⟩
  address := bytes.wordAt 20
  delimiters := bytes.byteAt 22
  column := bytes.byteAt 23
  erase := bytes.byteAt 24
  kill := bytes.byteAt 25
  state := ⟨bytes.byteAt 26⟩
  scratch := bytes.byteAt 27
  speeds := bytes.wordAt 28
  device := bytes.wordAt 30

def ofBytes (bytes : Bytes) : Except RecordFault Header :=
  RecordKind.decode .terminal fields bytes

end Header

end SixthEdition.Terminal
