/-
This file proves that kernel memory, once it is open, does not fail its reader,
whichever device stands behind it. A device that has let itself be opened
serves every read: whether it does is settled by the device and by the number
of terminals, and no read changes that number. So the reader keeps an open
device and an empty error slot over any operations.

What can still fail is only what the reader asks of the device itself. The word
that names the swap device may come back short, and the swap device that it
names may be any device at all, one that refuses its reads among them. No
record can be malformed: a reply never changes the length of the buffer it was
asked into.

A peek is not failed by any device either. But its buffer has the length that
the caller asks for, which nobody checks, and the program breaks off where no
buffer is as long.
-/

import SixthEdition.Proofs.Opening

namespace SixthEdition

/-! ### The buffer of a read -/

namespace Terminal

theorem length_read_le (room : Nat) (terminal : Terminal) :
    (terminal.read room).1.length ≤ room := by
  rw [read]
  split <;> exact List.length_take_le ..

end Terminal

namespace Bytes

theorem length_overlay {part bytes : Bytes} (fits : part.length ≤ bytes.length) :
    (part.overlay bytes).length = bytes.length := by
  rw [overlay, List.length_append, List.length_drop, Nat.add_sub_cancel' fits]

end Bytes

namespace Device

theorem Memory.length_buffer_read (tables : Tables) (offset : Nat) (buffer : Bytes) :
    (read tables offset buffer).buffer.length = buffer.length := by
  cases found : window? tables offset buffer.length with
  | none => rw [read, found]
  | some window =>
    have covers : Covers tables offset buffer.length window := window?_eq_some_iff.mp found
    rw [read_of_covers window covers]
    cases window with
    | swapDevice => exact covers.2.symm
    | processTable => exact Bytes.length_fit ..
    | image slot => exact (Bytes.length_fit ..).trans covers.2.2.symm
    | terminal unit =>
      rw [readWindow]
      split
      · exact covers.2.2.symm
      · rfl

/-- Whatever a device reads into a buffer, the buffer stays as long as it was. -/
theorem length_buffer_serve_read (device : Device) (unit : UInt8) (offset : Nat) (buffer : Bytes)
    (kernel : Kernel) :
    (device.serve unit (.read offset buffer) kernel).1.buffer.length = buffer.length := by
  cases device with
  | error => rfl
  | null => rfl
  | memory => exact Memory.length_buffer_read kernel.tables offset buffer
  | terminal =>
    rw [serve, Line.serve]
    split
    · rfl
    · exact Bytes.length_overlay (Terminal.length_read_le ..)

end Device

namespace KernelReader

open Reading

/-! ### Open kernel memory -/

/-- Kernel memory is open: its device serves, and no error is left over. -/
structure IsOpen (reader : KernelReader) : Prop where
  served : reader.openError? = none
  quiet : reader.kernel.error = none

/-- Kernel memory is still open, and the swap device is the one that was known before. -/
structure StaysOpen (before after : KernelReader) : Prop where
  isOpen : IsOpen after
  swap_eq : after.swap = before.swap

variable {reader before middle after : KernelReader}

theorem IsOpen.staysOpen (isOpen : IsOpen reader) : StaysOpen reader reader :=
  ⟨isOpen, rfl⟩

theorem StaysOpen.trans (first : StaysOpen before middle) (rest : StaysOpen middle after) :
    StaysOpen before after :=
  ⟨rest.isOpen, rest.swap_eq.trans first.swap_eq⟩

theorem openError?_requested (number : DeviceNumber) (request : Device.Request) :
    (reader.requested number request).openError? = reader.openError? := by
  rw [openError?_eq_refusal?, openError?_eq_refusal?, size_requested]
  rfl

/-- A device that serves an open serves everything but writes and terminal control. -/
theorem IsOpen.refusal?_eq_none (isOpen : IsOpen reader) {request : Device.Request}
    (noWrite : request.isWrite = false) (noControl : request.isControl = false) :
    reader.switch.refusal? reader.kernel.tables.terminals.size device request = none := by
  have served := isOpen.served
  rw [openError?_eq_refusal?, DeviceSwitch.refusal?] at served
  rw [DeviceSwitch.refusal?]
  cases resolved : reader.switch.resolve device.major with
  | error =>
    rw [resolved] at served
    cases served
  | null => rw [Device.refusal?, noControl]; rfl
  | memory => rw [Device.refusal?, noWrite, noControl]; rfl
  | terminal =>
    rw [resolved] at served
    exact served

/-- A request that no device refuses leaves kernel memory open. -/
theorem IsOpen.requested (isOpen : IsOpen reader) {number : DeviceNumber}
    {request : Device.Request}
    (served : reader.switch.refusal? reader.kernel.tables.terminals.size number request = none) :
    StaysOpen reader (reader.requested number request) where
  isOpen.served := (openError?_requested number request).trans isOpen.served
  isOpen.quiet := by rw [error_requested, served, isOpen.quiet]; rfl
  swap_eq := rfl

theorem openMemory_isOpen {switch : DeviceSwitch} {kernel : Kernel} {opened : KernelReader}
    (opens : openMemory.run { switch, kernel } = (.ok (), opened)) :
    IsOpen opened ∧ opened.swap = none := by
  obtain ⟨served, quiet⟩ := openMemory_eq_ok_iff.mp (congrArg Prod.fst opens)
  have gives := openMemory_gives_of_quiet (Option.or_eq_none_iff.mpr ⟨served, quiet⟩)
  obtain rfl := congrArg Prod.snd (opens.symm.trans gives)
  have stays := IsOpen.requested ⟨served, quiet⟩ ((openError?_eq_refusal? _).symm.trans served)
  exact ⟨stays.isOpen, stays.swap_eq⟩

/-! ### Operations that cannot fail -/

theorem closeMemory_gives_of_isOpen (isOpen : IsOpen reader) :
    Gives closeMemory reader () (reader.requested device .close) ∧
      StaysOpen reader (reader.requested device .close) := by
  have stays : StaysOpen reader (reader.requested device .close) :=
    isOpen.requested (isOpen.refusal?_eq_none rfl rfl)
  exact ⟨(request_gives_reply ..).bind (check_gives_of_quiet stays.isOpen.quiet .closing), stays⟩

theorem IsOpen.exists_read (isOpen : IsOpen reader) (offset : Nat) (buffer : Bytes) :
    ∃ reply after, Gives (read offset buffer) reader reply after ∧ StaysOpen reader after ∧
      reply.buffer.length = buffer.length := by
  have stays : StaysOpen reader (reader.requested device (.read offset buffer)) :=
    isOpen.requested (isOpen.refusal?_eq_none rfl rfl)
  refine ⟨_, _, (request_gives_reply ..).bind
    ((check_gives_of_quiet stays.isOpen.quiet .read).bind (Gives.pure _)), stays, ?_⟩
  exact Device.length_buffer_serve_read ..

theorem IsOpen.exists_peek (isOpen : IsOpen reader) (offset : Nat) {length : Nat}
    (short : length ≤ bufferLimit) :
    ∃ bytes after, Gives (peek offset length) reader bytes after ∧ StaysOpen reader after := by
  obtain ⟨reply, after, gives, stays, -⟩ := isOpen.exists_read offset (List.replicate length 0)
  exact ⟨_, after, peek_gives_of_read short gives, stays⟩

/-- The table is cut into full rows, and these can all be read. -/
theorem IsOpen.exists_records (isOpen : IsOpen reader) :
    ∃ listed after, Gives records reader listed after ∧ StaysOpen reader after := by
  obtain ⟨reply, after, gives, stays, sized⟩ := isOpen.exists_read AddressMap.processTable
    (List.replicate (AddressMap.processSlots * AddressMap.processRecordSize) 0)
  rw [List.length_replicate] at sized
  have decoded := ProcessRecord.mapM_ofBytes_of_wide fun _ => Bytes.length_of_mem_rows sized
  refine ⟨((reply.buffer.rows RecordKind.process.size).map ProcessRecord.fields).filter
    (·.status ≠ 0), after, gives.bind ?_, stays⟩
  dsimp only
  rw [show AddressMap.processRecordSize = RecordKind.process.size from rfl, decoded]
  exact Gives.pure _

theorem IsOpen.exists_terminalAt (isOpen : IsOpen reader) (address : UInt16) :
    ∃ number after, Gives (terminalAt address) reader number after ∧ StaysOpen reader after := by
  rw [terminalAt]
  split
  case isFalse => exact ⟨none, reader, Gives.pure none, isOpen.staysOpen⟩
  case isTrue =>
    obtain ⟨reply, after, gives, stays, sized⟩ := isOpen.exists_read address.toNat
      (List.replicate AddressMap.terminalRecordSize 0)
    rw [List.length_replicate] at sized
    have decoded : Terminal.Header.ofBytes reply.buffer = .ok (.fields reply.buffer) := if_pos sized
    by_cases full : reply.count = AddressMap.terminalRecordSize
    · refine ⟨some (Terminal.Header.fields reply.buffer).deviceNumber, after, gives.bind ?_, stays⟩
      rw [if_pos full, decoded]
      exact Gives.pure _
    · refine ⟨none, after, gives.bind ?_, stays⟩
      rw [if_neg full]
      exact Gives.pure _

/-! ### Operations that may fail -/

/-- No device fails a peek, and one that is too long for a buffer asks none. -/
theorem IsOpen.peek_meets (isOpen : IsOpen reader) (offset length : Nat) :
    Meets (peek offset length) reader (fun _ after => StaysOpen reader after)
      (fun fault after => StaysOpen reader after ∧
        bufferLimit < length ∧ fault = .capacityOverflow) := by
  rcases Nat.lt_or_ge bufferLimit length with long | short
  · exact .failed (peek_fails long offset) ⟨isOpen.staysOpen, long, rfl⟩
  · obtain ⟨bytes, after, gives, stays⟩ := isOpen.exists_peek offset short
    exact .given gives stays

/-- The word that names the swap device was not read in full. -/
def ShortProbe (fault : ReadFault) : Prop :=
  ∃ found, found ≠ 2 ∧ fault = .swapProbe found

/-- The swap device that was looked up has failed, and the record is one whose image is not in
core. -/
def SwapReadFault (reader : KernelReader) (record : ProcessRecord) (fault : ReadFault) : Prop :=
  record.flags.has .loaded = false ∧
    ∃ swap code, reader.swap = some swap ∧ fault = .device .swapRead code

theorem SwapReadFault.of_staysOpen {record : ProcessRecord} {fault : ReadFault}
    (swapRead : SwapReadFault after record fault) (stays : StaysOpen before after) :
    SwapReadFault before record fault := by
  rwa [SwapReadFault, stays.swap_eq] at swapRead

theorem IsOpen.probeSwap_meets (isOpen : IsOpen reader) :
    Meets probeSwap reader
      (fun number after => IsOpen after ∧ after.swap = some number)
      (fun fault after => StaysOpen reader after ∧ ShortProbe fault) := by
  obtain ⟨reply, after, gives, stays, -⟩ := isOpen.exists_read AddressMap.swapDevice [0, 0]
  rw [probeSwap]
  by_cases full : reply.count = 2
  · have holds : IsOpen { after with swap := some (.ofWord (reply.buffer.wordAt 0)) } :=
      ⟨stays.isOpen.served, stays.isOpen.quiet⟩
    refine .given (gives.bind ?_) ⟨holds, rfl⟩
    rw [if_pos full]
    exact (Gives.modify _).bind (Gives.pure _)
  · refine .failed (gives.bind_fails ?_) ⟨stays, reply.count, full, rfl⟩
    rw [if_neg full]
    exact Fails.throw _

/-- A request of any device that is checked in a call can only fail in that call, and leaves the
slot empty in any case. -/
theorem IsOpen.ask_meets {Value : Type} (isOpen : IsOpen reader) (number : DeviceNumber)
    (asked : Device.Request) (call : KernelCall) (result : Device.Reply → Value) :
    Meets (do let reply ← request number asked; check call; return result reply) reader
      (fun _ after => StaysOpen reader after)
      (fun fault after => StaysOpen reader after ∧ ∃ code, fault = .device call code) := by
  cases reported : reader.switch.refusal? reader.kernel.tables.terminals.size number asked with
  | none =>
    have stays : StaysOpen reader (reader.requested number asked) := isOpen.requested reported
    exact .given ((request_gives_reply ..).bind
      ((check_gives_of_quiet stays.isOpen.quiet call).bind (Gives.pure _))) stays
  | some code =>
    have slot : (reader.requested number asked).kernel.error = some code := by
      rw [error_requested, reported]
      rfl
    have served : (reader.requested number asked).openError? = none :=
      (openError?_requested number asked).trans isOpen.served
    exact .failed ((request_gives_reply ..).bind_fails (check_fails slot call).bind)
      ⟨⟨⟨served, rfl⟩, rfl⟩, code, rfl⟩

/-- The image that is not in core is asked of the swap device, which may refuse. -/
theorem IsOpen.topPage_meets (isOpen : IsOpen reader) (record : ProcessRecord) :
    Meets (topPage record) reader (fun _ after => StaysOpen reader after)
      (fun fault after => StaysOpen reader after ∧ SwapReadFault reader record fault) := by
  rw [topPage]
  cases pageOffset? record with
  | none => exact .given (Gives.pure none) isOpen.staysOpen
  | some offset =>
    dsimp only
    split
    case isTrue =>
      obtain ⟨reply, after, gives, stays, -⟩ := isOpen.exists_read offset
        (List.replicate AddressMap.imagePageSize 0)
      exact .given (gives.bind (Gives.pure _)) stays
    case isFalse notLoaded =>
      refine Gives.get.bind_meets ?_
      cases known : reader.swap with
      | none => exact .given (Gives.pure none) isOpen.staysOpen
      | some swap =>
        refine (isOpen.ask_meets swap _ .swapRead _).imp (fun _ _ stays => stays) ?_
        rintro fault after ⟨stays, code, rfl⟩
        exact ⟨stays, Bool.eq_false_iff.mpr notLoaded, swap, code, known, rfl⟩

theorem IsOpen.command_meets (isOpen : IsOpen reader) (record : ProcessRecord) :
    Meets (command record) reader (fun _ after => StaysOpen reader after)
      (fun fault after => StaysOpen reader after ∧ SwapReadFault reader record fault) := by
  rw [command]
  split
  case isTrue => exact .given (Gives.pure _) isOpen.staysOpen
  case isFalse =>
    split
    case isTrue => exact .given (Gives.pure _) isOpen.staysOpen
    case isFalse =>
      exact (isOpen.topPage_meets record).bind fun _ _ _ stays => .given (Gives.pure _) stays

theorem IsOpen.entry_meets (isOpen : IsOpen reader) (record : ProcessRecord) :
    Meets (entry record) reader (fun _ after => StaysOpen reader after)
      (fun fault after => StaysOpen reader after ∧ SwapReadFault reader record fault) := by
  refine (isOpen.command_meets record).bind fun command middle _ first => ?_
  obtain ⟨terminal, after, gives, rest⟩ := first.isOpen.exists_terminalAt record.terminal
  exact .given (gives.bind (Gives.pure _)) (first.trans rest)

/-- The entries fail where the swap device is looked up, or where it is asked for the image of a
record that the table lists. -/
def EntriesFault (reader : KernelReader) (fault : ReadFault) : Prop :=
  ShortProbe fault ∨
    ∃ number probed listed fetched, Gives probeSwap reader number probed ∧
      Gives records probed listed fetched ∧ ∃ record ∈ listed, SwapReadFault fetched record fault

theorem IsOpen.entries_meets (isOpen : IsOpen reader) :
    Meets entries reader (fun _ after => IsOpen after)
      (fun fault after => IsOpen after ∧ EntriesFault reader fault) := by
  have probes : Meets probeSwap reader (fun _ after => IsOpen after)
      (fun fault after => IsOpen after ∧ EntriesFault reader fault) :=
    isOpen.probeSwap_meets.imp (fun _ _ given => given.1)
      fun _ _ failed => ⟨failed.1.isOpen, .inl failed.2⟩
  refine probes.bind fun number probed probe openProbed => ?_
  obtain ⟨listed, fetched, fetch, stays⟩ := openProbed.exists_records
  -- The records are those of one read; only what the devices hold moves on between them.
  have each : ∀ record ∈ listed, ∀ reader, StaysOpen fetched reader →
      Meets (entry record) reader (fun _ after => StaysOpen fetched after)
        (fun fault after => StaysOpen fetched after ∧
          ∃ record ∈ listed, SwapReadFault fetched record fault) := by
    intro record member reader kept
    refine (kept.isOpen.entry_meets record).imp (fun _ _ rest => kept.trans rest) ?_
    rintro fault after ⟨rest, swapRead⟩
    exact ⟨kept.trans rest, record, member, swapRead.of_staysOpen kept⟩
  refine fetch.bind_meets ((Meets.mapM each stays.isOpen.staysOpen).imp
    (fun _ _ kept => kept.isOpen) ?_)
  rintro fault after ⟨kept, failed⟩
  exact ⟨kept.isOpen, .inr ⟨number, probed, listed, fetched, probe, fetch, failed⟩⟩

/-! ### Runs of operations -/

/-- What a program does with open kernel memory. -/
inductive Operation where
  | read (offset : Nat) (buffer : Bytes)
  | peek (offset length : Nat)
  | probeSwap
  | records
  | topPage (record : ProcessRecord)
  | terminalAt (address : UInt16)
  | entries

namespace Operation

/-- What an operation gives. -/
abbrev Value : Operation → Type
  | .read .. => Device.Reply
  | .peek .. => Bytes
  | .probeSwap => DeviceNumber
  | .records => List ProcessRecord
  | .topPage _ => Option Bytes
  | .terminalAt _ => Option DeviceNumber
  | .entries => List ProcessEntry

def perform : (operation : Operation) → Reading operation.Value
  | .read offset buffer => KernelReader.read offset buffer
  | .peek offset length => KernelReader.peek offset length
  | .probeSwap => KernelReader.probeSwap
  | .records => KernelReader.records
  | .topPage record => KernelReader.topPage record
  | .terminalAt address => KernelReader.terminalAt address
  | .entries => KernelReader.entries

/-- The reader behind some operations, each made whether or not those before it have failed. One
that has broken off counts as not made: it leaves the reader as it was. -/
def afterAll (operations : List Operation) (reader : KernelReader) : KernelReader :=
  operations.foldl (fun reader operation => (operation.perform.run reader).2) reader

/-- The faults with which an operation may fail. -/
def MayFail (reader : KernelReader) : Operation → ReadFault → Prop
  | .peek _ length, fault => bufferLimit < length ∧ fault = .capacityOverflow
  | .probeSwap, fault => ShortProbe fault
  | .topPage record, fault => SwapReadFault reader record fault
  | .entries, fault => EntriesFault reader fault
  | .read .., _ | .records, _ | .terminalAt _, _ => False

/-- Whether an operation looks up the swap device. -/
def probes : Operation → Bool
  | .probeSwap | .entries => true
  | _ => false

end Operation

/-- An operation leaves kernel memory open, and the known swap device as it was, unless it has
looked one up. -/
structure Operation.Leaves (operation : Operation) (before after : KernelReader) : Prop where
  isOpen : IsOpen after
  swap_eq : operation.probes = false → after.swap = before.swap

theorem StaysOpen.leaves (stays : StaysOpen before after) (operation : Operation) :
    operation.Leaves before after :=
  ⟨stays.isOpen, fun _ => stays.swap_eq⟩

theorem IsOpen.perform_meets (isOpen : IsOpen reader) (operation : Operation) :
    Meets operation.perform reader (fun _ after => operation.Leaves reader after)
      (fun fault after => operation.Leaves reader after ∧ operation.MayFail reader fault) := by
  cases operation with
  | read offset buffer =>
    obtain ⟨reply, after, gives, stays, -⟩ := isOpen.exists_read offset buffer
    exact .given gives (stays.leaves _)
  | peek offset length =>
    exact (isOpen.peek_meets offset length).imp (fun _ _ stays => stays.leaves _)
      fun _ _ failed => ⟨failed.1.leaves _, failed.2⟩
  | probeSwap =>
    exact isOpen.probeSwap_meets.imp (fun _ _ given => ⟨given.1, nofun⟩)
      fun _ _ failed => ⟨failed.1.leaves _, failed.2⟩
  | records =>
    obtain ⟨listed, after, gives, stays⟩ := isOpen.exists_records
    exact .given gives (stays.leaves _)
  | topPage record =>
    exact (isOpen.topPage_meets record).imp (fun _ _ stays => stays.leaves _)
      fun _ _ failed => ⟨failed.1.leaves _, failed.2⟩
  | terminalAt address =>
    obtain ⟨number, after, gives, stays⟩ := isOpen.exists_terminalAt address
    exact .given gives (stays.leaves _)
  | entries =>
    exact isOpen.entries_meets.imp (fun _ _ left => ⟨left, nofun⟩)
      fun _ _ failed => ⟨⟨failed.1, nofun⟩, failed.2⟩

/-- Whether it fails or not, an operation leaves what it should. -/
theorem IsOpen.leaves_perform (isOpen : IsOpen reader) (operation : Operation) :
    operation.Leaves reader (operation.perform.run reader).2 :=
  (isOpen.perform_meets operation).left (fun _ _ leaves => leaves) fun _ _ failed => failed.1

/-- Kernel memory stays open over any operations, and the known swap device is the one from before
where none of them looks it up. -/
theorem IsOpen.afterAll (isOpen : IsOpen reader) (operations : List Operation) :
    IsOpen (Operation.afterAll operations reader) ∧
      ((∀ operation ∈ operations, operation.probes = false) →
        (Operation.afterAll operations reader).swap = reader.swap) := by
  induction operations generalizing reader with
  | nil => exact ⟨isOpen, fun _ => rfl⟩
  | cons operation rest inductionHypothesis =>
    have leaves := isOpen.leaves_perform operation
    obtain ⟨openLast, known⟩ := inductionHypothesis leaves.isOpen
    refine ⟨openLast, fun unprobed => ?_⟩
    obtain ⟨first, others⟩ := List.forall_mem_cons.mp unprobed
    exact (known others).trans (leaves.swap_eq first)

/-- Behind a successful open of kernel memory, through any switch and in any system, the error slot
is empty after each of the operations that a program makes, whichever they are and whether or not
some of them fail. The next operation may fail only as `Operation.MayFail` says, so that reads, the
records of the table and the numbers of terminals are always had; and a swap device is known only
where it has been looked up. Whatever was done, kernel memory can be closed. A peek gives bytes
exactly if its length is that of a buffer, which has at most 2⁶³ - 1 bytes; else it breaks off
before it makes a call. -/
theorem open_reads_fail_only_at_swap_or_long_peek {switch : DeviceSwitch} {kernel : Kernel}
    {opened : KernelReader} (opens : openMemory.run { switch, kernel } = (.ok (), opened))
    (operations : List Operation) :
    let reader := Operation.afterAll operations opened
    reader.kernel.error = none ∧
    (reader.swap ≠ none → ∃ operation ∈ operations, operation.probes = true) ∧
    (∀ operation : Operation,
      let (result, after) := operation.perform.run reader
      after.kernel.error = none ∧ ∀ fault, result = .error fault → operation.MayFail reader fault) ∧
    (∀ offset length : Nat,
      (length ≤ 0x7fffffffffffffff →
        ∃ bytes after, (peek offset length).run reader = (.ok bytes, after)) ∧
      (0x7fffffffffffffff < length →
        (peek offset length).run reader = (.error .capacityOverflow, reader))) ∧
    ∃ closed, closeMemory.run reader = (.ok (), closed) ∧ closed.kernel.error = none := by
  intro reader
  obtain ⟨isOpen, unknown⟩ := openMemory_isOpen opens
  obtain ⟨openReader, kept⟩ := isOpen.afterAll operations
  refine ⟨openReader.quiet, ?_, fun operation => ?_, fun offset length => ⟨?_, ?_⟩, ?_⟩
  · intro known
    by_cases probed : operations.any Operation.probes
    · exact List.any_eq_true.mp probed
    · have unprobed : ∀ operation ∈ operations, operation.probes = false := by
        simpa using probed
      exact absurd ((kept unprobed).trans unknown) known
  · exact ⟨(openReader.leaves_perform operation).isOpen.quiet, fun fault failed =>
      ((openReader.perform_meets operation).of_error failed).2⟩
  · intro short
    obtain ⟨bytes, after, gives, -⟩ := openReader.exists_peek offset short
    exact ⟨bytes, after, gives⟩
  · exact fun long => peek_fails long offset
  · obtain ⟨closes, stays⟩ := closeMemory_gives_of_isOpen openReader
    exact ⟨_, closes, stays.isOpen.quiet⟩

/-- A reader that finds a terminal behind the number of kernel memory, in raw mode and with two
characters on its line. -/
def lineReader : KernelReader where
  switch := ⟨[none, some .terminal]⟩
  kernel.tables.processes := .empty
  kernel.tables.terminals.entries :=
    [{ header := { Terminal.Header.fresh ⟨4, 0⟩ with modes := .raw }, raw := [0, 9] }]
  kernel.tables.terminals.fits := by decide

/-- The two characters are taken for the number of the swap device, which has no device behind it.
The image that is asked of it cannot be had, a peek still can, and kernel memory is closed without
an error. -/
theorem open_reads_fail_only_at_swap_or_long_peek_of_line :
    let reader := Operation.afterAll [.probeSwap] (openMemory.run lineReader).2
    (openMemory.run lineReader).1 = .ok () ∧ reader.swap = some ⟨9, 0⟩ ∧
    ((topPage { size := 8 }).run reader).1 = .error (.device .swapRead .enxio) ∧
    SwapReadFault reader { size := 8 } (.device .swapRead .enxio) ∧
    (∃ bytes after, (peek 0 2).run reader = (.ok bytes, after)) ∧
    ∃ closed, closeMemory.run reader = (.ok (), closed) ∧ closed.kernel.error = none := by
  intro reader
  have opens : openMemory.run lineReader = (.ok (), (openMemory.run lineReader).2) := rfl
  have failed : ((topPage { size := 8 }).run reader).1 = .error (.device .swapRead .enxio) := rfl
  obtain ⟨-, -, next, peeks, closes⟩ := open_reads_fail_only_at_swap_or_long_peek opens [.probeSwap]
  exact ⟨rfl, rfl, failed, (next (.topPage { size := 8 })).2 _ failed,
    (peeks 0 2).1 (by decide), closes⟩

/-- Through the standard switch the open goes well, and a peek that asks for one byte more than a
buffer can have breaks off, though there is nothing at its offset to be read. -/
theorem peek_breaks_off_behind_open :
    let start : KernelReader := { switch := .standard, kernel := { tables := .empty } }
    let opened := (openMemory.run start).2
    (openMemory.run start).1 = .ok () ∧
    (peek 0 0x8000000000000000).run opened = (.error .capacityOverflow, opened) ∧
    ¬ ∀ offset length, ∃ bytes after, (peek offset length).run opened = (.ok bytes, after) := by
  intro start opened
  have breaks : (peek 0 0x8000000000000000).run opened = (.error .capacityOverflow, opened) :=
    peek_fails (by decide) 0
  refine ⟨rfl, breaks, fun gives => ?_⟩
  obtain ⟨bytes, after, given⟩ := gives 0 0x8000000000000000
  rw [breaks] at given
  cases given

end KernelReader

end SixthEdition
