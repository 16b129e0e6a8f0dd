/-
This file holds the kernel memory device. There is no memory behind it: each
read names an offset and a length, and if the two together fit one of the
windows of the address map, the table behind that window is written out for the
reader. Nothing else can be read, and nothing can be written.
-/

import SixthEdition.Device.Request

namespace SixthEdition.Device.Memory

/-! ### Windows -/

inductive Window where
  | swapDevice
  | processTable
  | image (slot : Nat)
  | terminal (unit : Nat)
  deriving DecidableEq

/-- The entry that starts at an offset, in a row of `count` entries `stride` apart of which each
is read in one length only. -/
def entryAt? (base stride size count offset length : Nat) : Option Nat :=
  if length = size ∧ base ≤ offset ∧ (offset - base) % stride = 0 ∧
      (offset - base) / stride < count then
    some ((offset - base) / stride)
  else none

/-- The window that a read of `length` bytes at an offset falls into. -/
def window? (tables : Tables) (offset length : Nat) : Option Window :=
  if offset = AddressMap.swapDevice ∧ length = 2 then some .swapDevice
  else if offset = AddressMap.processTable then some .processTable
  else
    match entryAt? AddressMap.imageTable AddressMap.clickSize AddressMap.imagePageSize
        tables.processes.size offset length with
    | some slot => some (.image slot)
    | none =>
      (entryAt? AddressMap.terminalTable AddressMap.terminalRecordSize
        AddressMap.terminalRecordSize tables.terminals.size offset length).map .terminal

/-! ### Contents -/

/-- A record as kernel memory shows it: the image is in core and one page long, at the address of
the window through which it can be read. -/
def shownRecord (slot : Nat) (record : ProcessRecord) : ProcessRecord :=
  { record with
    flags := record.flags.adding .loaded
    address := AddressMap.imageClick slot
    size := AddressMap.shownImageSize }

/-- The records of the process table, each as it is shown, one after the other. -/
def shownTable (tables : Tables) : Bytes :=
  (tables.processes.entries.mapIdx fun slot process =>
    (shownRecord slot process.record).toBytes).flatten

/-- The bytes at the top of an image, with zeros after the end of a shorter image. -/
def imagePage (image : Bytes) : Bytes :=
  (image.last AddressMap.imagePageSize).fit AddressMap.imagePageSize

/-- Reads a window. The process table is reported with its full length even where the buffer is
shorter; the bytes of the buffer behind the table become zeros. -/
def readWindow (tables : Tables) (buffer : Bytes) : Window → Reply
  | .swapDevice =>
    let bytes := AddressMap.swapDeviceNumber.toBytes
    { count := bytes.length, buffer := bytes }
  | .processTable =>
    let table := shownTable tables
    { count := table.length, buffer := table.fit buffer.length }
  | .image slot =>
    let image := ((tables.processes.get? slot).map (·.image)).getD []
    { count := AddressMap.imagePageSize, buffer := imagePage image }
  | .terminal unit =>
    match tables.terminals.get? unit with
    | some terminal =>
      let bytes := terminal.header.toBytes
      { count := bytes.length, buffer := bytes }
    | none => { buffer }

def read (tables : Tables) (offset : Nat) (buffer : Bytes) : Reply :=
  match window? tables offset buffer.length with
  | some window => readWindow tables buffer window
  | none => { buffer }

def serve (request : Request) (kernel : Kernel) : Reply × Kernel :=
  match request with
  | .read offset buffer => (read kernel.tables offset buffer, kernel)
  | .write .. => refuse .eperm request kernel
  | .control .. => refuse .enotty request kernel
  | .openFor _ | .close => (request.untouched, kernel)

end SixthEdition.Device.Memory
