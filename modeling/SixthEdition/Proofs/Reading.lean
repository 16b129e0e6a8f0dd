/-
This file proves what the calls of a reader of kernel memory give when they
reach the kernel memory device with an empty error slot. A call that goes well
is a value together with the reader that is left, and calls in sequence are put
together from those of their parts. None of the calls changes the kernel: the
only thing that a reader ever learns is the number of the swap device.

The page of a shown record always comes from core, because the record says that
the image is there: the swap device is never asked.
-/

import SixthEdition.KernelReader.Processes
import SixthEdition.Proofs.KernelMemory

namespace SixthEdition

/-! ### Readings and what they give -/

namespace Reading

/-- A reading gives a value and leaves the reader in a state. -/
def Gives {Value : Type} (reading : Reading Value) (before : KernelReader) (value : Value)
    (after : KernelReader) : Prop :=
  reading.run before = (.ok value, after)

/-- A reading fails with a fault and leaves the reader in a state. -/
def Fails {Value : Type} (reading : Reading Value) (before : KernelReader) (fault : ReadFault)
    (after : KernelReader) : Prop :=
  reading.run before = (.error fault, after)

variable {First Second : Type} {before middle after reader : KernelReader}

theorem run_bind (reading : Reading First) (next : First → Reading Second)
    (before : KernelReader) :
    (reading >>= next).run before =
      match reading.run before with
      | (.ok value, middle) => (next value).run middle
      | (.error fault, middle) => (.error fault, middle) := by
  show (ExceptT.bindCont next (reading.run before).1) (reading.run before).2 = _
  rcases reading.run before with ⟨fault | value, middle⟩ <;> rfl

theorem Gives.pure (value : First) : Gives (pure value) reader value reader := rfl

theorem Gives.get : Gives get reader reader reader := rfl

theorem Gives.modify (change : KernelReader → KernelReader) :
    Gives (modify change) reader () (change reader) := rfl

theorem Gives.bind {reading : Reading First} {next : First → Reading Second} {value : First}
    {result : Second} (first : Gives reading before value middle)
    (rest : Gives (next value) middle result after) :
    Gives (reading >>= next) before result after := by
  rw [Gives, run_bind, first]
  exact rest

theorem Fails.throw (fault : ReadFault) : Fails (throw fault : Reading First) reader fault reader :=
  rfl

/-- What comes behind a reading that fails is not done. -/
theorem Fails.bind {reading : Reading First} {next : First → Reading Second} {fault : ReadFault}
    (first : Fails reading before fault after) : Fails (reading >>= next) before fault after := by
  rw [Fails, run_bind, first]

theorem Gives.bind_fails {reading : Reading First} {next : First → Reading Second} {value : First}
    {fault : ReadFault} (first : Gives reading before value middle)
    (rest : Fails (next value) middle fault after) :
    Fails (reading >>= next) before fault after := by
  rw [Fails, run_bind, first]
  exact rest

/-- Readings that leave the reader as it is are made for each item in turn. -/
theorem Gives.mapM {step : First → Reading Second} {result : First → Second} {items : List First}
    (each : ∀ item ∈ items, Gives (step item) reader (result item) reader) :
    Gives (items.mapM step) reader (items.map result) reader := by
  induction items with
  | nil => exact Gives.pure []
  | cons item rest inductionHypothesis =>
    obtain ⟨first, others⟩ := List.forall_mem_cons.mp each
    rw [List.mapM_cons]
    exact first.bind ((inductionHypothesis others).bind (Gives.pure _))

/-! ### What a reading may come to -/

/-- A reading gives a value or fails, and leaves a reader that is as it should be in the one case
or in the other. -/
inductive Meets {Value : Type} (reading : Reading Value) (before : KernelReader)
    (Given : Value → KernelReader → Prop) (Failed : ReadFault → KernelReader → Prop) : Prop where
  | given {value : Value} {after : KernelReader} (gives : Gives reading before value after)
    (holds : Given value after)
  | failed {fault : ReadFault} {after : KernelReader} (fails : Fails reading before fault after)
    (holds : Failed fault after)

section Meets

variable {reading : Reading First} {Given : First → KernelReader → Prop}
  {Failed : ReadFault → KernelReader → Prop}

/-- What holds in both cases holds of the reader that is left. -/
theorem Meets.left (meets : Meets reading before Given Failed) {Holds : KernelReader → Prop}
    (given : ∀ value after, Given value after → Holds after)
    (failed : ∀ fault after, Failed fault after → Holds after) :
    Holds (reading.run before).2 := by
  cases meets with
  | given gives holds =>
    rw [gives]
    exact given _ _ holds
  | failed fails holds =>
    rw [fails]
    exact failed _ _ holds

theorem Meets.of_error {fault : ReadFault} (meets : Meets reading before Given Failed)
    (failed : (reading.run before).1 = .error fault) : Failed fault (reading.run before).2 := by
  cases meets with
  | given gives holds =>
    rw [gives] at failed
    cases failed
  | failed fails holds =>
    rw [fails] at failed ⊢
    cases failed
    exact holds

theorem Meets.imp {OtherGiven : First → KernelReader → Prop}
    {OtherFailed : ReadFault → KernelReader → Prop} (meets : Meets reading before Given Failed)
    (given : ∀ value after, Given value after → OtherGiven value after)
    (failed : ∀ fault after, Failed fault after → OtherFailed fault after) :
    Meets reading before OtherGiven OtherFailed := by
  cases meets with
  | given gives holds => exact .given gives (given _ _ holds)
  | failed fails holds => exact .failed fails (failed _ _ holds)

theorem Gives.bind_meets {next : First → Reading Second} {value : First}
    {Given : Second → KernelReader → Prop} (first : Gives reading before value middle)
    (rest : Meets (next value) middle Given Failed) :
    Meets (reading >>= next) before Given Failed := by
  cases rest with
  | given gives holds => exact .given (first.bind gives) holds
  | failed fails holds => exact .failed (first.bind_fails fails) holds

theorem Meets.bind {next : First → Reading Second} {After : Second → KernelReader → Prop}
    (first : Meets reading before Given Failed)
    (rest : ∀ value middle, Gives reading before value middle → Given value middle →
      Meets (next value) middle After Failed) :
    Meets (reading >>= next) before After Failed := by
  cases first with
  | failed fails holds => exact .failed fails.bind holds
  | given gives holds => exact gives.bind_meets (rest _ _ gives holds)

/-- What the reading for each item keeps is kept by all of them together, up to the first that
fails. -/
theorem Meets.mapM {step : First → Reading Second} {Kept : KernelReader → Prop}
    {items : List First}
    (each : ∀ item ∈ items, ∀ reader, Kept reader →
      Meets (step item) reader (fun _ after => Kept after) Failed) (kept : Kept before) :
    Meets (items.mapM step) before (fun _ after => Kept after) Failed := by
  induction items generalizing before with
  | nil => exact .given (Gives.pure []) kept
  | cons item rest inductionHypothesis =>
    obtain ⟨first, others⟩ := List.forall_mem_cons.mp each
    rw [List.mapM_cons]
    refine (first before kept).bind fun _ middle _ keptFirst => ?_
    refine (inductionHypothesis others keptFirst).bind fun _ _ _ keptRest => ?_
    exact .given (Gives.pure _) keptRest

end Meets

end Reading

namespace KernelReader

open Reading

/-! ### Calls of the kernel memory device -/

/-- The reader's calls reach kernel memory, and no error of an earlier call is left over. -/
structure Serves (reader : KernelReader) : Prop where
  memory : reader.switch.resolve Major.memory = .memory
  quiet : reader.kernel.error = none

variable {reader : KernelReader}

theorem Serves.withSwap (serves : Serves reader) (swap : Option DeviceNumber) :
    Serves { reader with swap } :=
  ⟨serves.memory, serves.quiet⟩

/-- A reader that has just made a request of a device. -/
def requested (reader : KernelReader) (number : DeviceNumber) (request : Device.Request) :
    KernelReader :=
  { reader with kernel := (reader.switch.request number request reader.kernel).2 }

theorem request_gives_reply (number : DeviceNumber) (request : Device.Request) :
    Gives (KernelReader.request number request) reader
      (reader.switch.request number request reader.kernel).1 (reader.requested number request) :=
  rfl

theorem check_gives_of_quiet (quiet : reader.kernel.error = none) (call : KernelCall) :
    Gives (check call) reader () reader := by
  obtain ⟨switch, ⟨tables, error⟩, swap⟩ := reader
  obtain rfl : error = none := quiet
  rfl

/-- Whichever call has left it, an error that is in the slot is taken for one of the call that is
checked. -/
theorem check_fails {code : ErrorNumber} (left : reader.kernel.error = some code)
    (call : KernelCall) :
    Fails (check call) reader (.device call code)
      { reader with kernel := { reader.kernel with error := none } } := by
  obtain ⟨switch, ⟨tables, error⟩, swap⟩ := reader
  obtain rfl : error = some code := left
  rfl

theorem check_gives (serves : Serves reader) (call : KernelCall) :
    Gives (check call) reader () reader :=
  check_gives_of_quiet serves.quiet call

theorem request_gives (serves : Serves reader) (request : Device.Request) :
    Gives (KernelReader.request device request) reader
      (Device.Memory.serve request reader.kernel).1
      { reader with kernel := (Device.Memory.serve request reader.kernel).2 } := by
  have served : reader.switch.request device request reader.kernel =
      Device.Memory.serve request reader.kernel := by
    rw [DeviceSwitch.request, show device.major = Major.memory from rfl, serves.memory]
    rfl
  rw [← served]
  rfl

theorem openMemory_gives (serves : Serves reader) : Gives openMemory reader () reader :=
  (request_gives serves (.openFor .read)).bind (check_gives serves .opening)

theorem closeMemory_gives (serves : Serves reader) : Gives closeMemory reader () reader :=
  (request_gives serves .close).bind (check_gives serves .closing)

theorem read_gives (serves : Serves reader) (offset : Nat) (buffer : Bytes) :
    Gives (read offset buffer) reader (Device.Memory.read reader.kernel.tables offset buffer)
      reader :=
  (request_gives serves (.read offset buffer)).bind
    ((check_gives serves .read).bind (Gives.pure _))

/-- What a read into an empty buffer gives at a place of the address map. -/
theorem read_gives_of_covers (serves : Serves reader) {offset length : Nat}
    {window : Device.Memory.Window}
    (covers : Device.Memory.Covers reader.kernel.tables offset length window) :
    Gives (read offset (List.replicate length 0)) reader
      (Device.Memory.readWindow reader.kernel.tables (List.replicate length 0) window) reader := by
  have given := read_gives serves offset (List.replicate length 0)
  rwa [Device.Memory.read_of_covers window (by rwa [List.length_replicate])] at given

/-- A read into an empty buffer at any other place leaves it empty. -/
theorem read_gives_of_not_covers (serves : Serves reader) {offset length : Nat}
    (outside : ∀ window, ¬ Device.Memory.Covers reader.kernel.tables offset length window) :
    Gives (read offset (List.replicate length 0)) reader { buffer := List.replicate length 0 }
      reader := by
  have given := read_gives serves offset (List.replicate length 0)
  rwa [Device.Memory.read_of_not_covers (by rwa [List.length_replicate])] at given

/-! ### Buffers -/

theorem allocate_gives {length : Nat} (short : length ≤ bufferLimit) :
    Gives (allocate length) reader (List.replicate length 0) reader := by
  rw [allocate, if_neg (Nat.not_lt.mpr short)]
  exact Gives.pure _

theorem allocate_fails {length : Nat} (long : bufferLimit < length) :
    Fails (allocate length) reader .capacityOverflow reader := by
  rw [allocate, if_pos long]
  exact Fails.throw _

/-- A peek for which there is a buffer comes down to a read into it. -/
theorem peek_gives_of_read {offset length : Nat} {reply : Device.Reply} {after : KernelReader}
    (short : length ≤ bufferLimit)
    (gives : Gives (read offset (List.replicate length 0)) reader reply after) :
    Gives (peek offset length) reader (reply.buffer.take reply.count) after :=
  (allocate_gives short).bind (gives.bind (Gives.pure _))

/-- A peek for which there is no buffer makes no call. -/
theorem peek_fails {length : Nat} (long : bufferLimit < length) (offset : Nat) :
    Fails (peek offset length) reader .capacityOverflow reader :=
  (allocate_fails long).bind

/-! ### The swap device and the process table -/

theorem probeSwap_gives (serves : Serves reader) :
    Gives probeSwap reader AddressMap.swapDeviceNumber
      { reader with swap := some AddressMap.swapDeviceNumber } := by
  have covers : Device.Memory.Covers reader.kernel.tables AddressMap.swapDevice 2 .swapDevice :=
    ⟨rfl, rfl⟩
  refine (read_gives_of_covers serves covers).bind ?_
  dsimp only [Device.Memory.readWindow]
  rw [if_pos (show AddressMap.swapDeviceNumber.toBytes.length = 2 from rfl)]
  exact (Gives.modify _).bind (Gives.pure _)

/-- The table is read in full, and its unused slots are left out. -/
theorem records_give (serves : Serves reader) :
    Gives records reader
      ((Device.Memory.shownRecords reader.kernel.tables).filter (·.status ≠ 0)) reader := by
  have covers (length : Nat) : Device.Memory.Covers reader.kernel.tables AddressMap.processTable
      length .processTable := rfl
  refine (read_gives_of_covers serves (covers _)).bind ?_
  dsimp only [Device.Memory.readWindow]
  rw [List.length_replicate, Device.Memory.mapM_ofBytes_shownTable]
  have unused (count : Nat) :
      (List.replicate count ProcessRecord.unused).filter (·.status ≠ 0) = [] := by
    rw [List.filter_eq_nil_iff]
    intro record member
    rw [List.eq_of_mem_replicate member]
    decide
  show Gives (pure _) reader _ reader
  rw [List.filter_append, unused, List.append_nil]
  exact Gives.pure _

/-! ### The page and the terminal of a process -/

theorem has_adding (flags mask : ProcessFlags) : (flags.adding mask).has mask = true := by
  have absorbed : (flags.bits ||| mask.bits) &&& mask.bits = mask.bits := by
    apply UInt8.toBitVec_inj.mp
    ext bit bounded
    simp only [UInt8.toBitVec_and, UInt8.toBitVec_or, BitVec.getElem_and, BitVec.getElem_or]
    cases mask.bits.toBitVec[bit] <;> simp only [Bool.and_false, Bool.or_true, Bool.and_true]
  exact beq_iff_eq.mpr absorbed

/-- Eight clicks are a page: the page at the top of an image starts so many below its end. -/
theorem pageOffset?_of_click {record : ProcessRecord} {click : Nat}
    (top : record.address.toNat + record.size.toNat = click + 8) :
    pageOffset? record = some (64 * click) := by
  rw [pageOffset?, top, if_neg (Nat.not_lt.mpr (Nat.le_add_left 8 click)), Nat.add_sub_cancel,
    Nat.mul_comm]
  rfl

/-- The page at the place of a process's image is had from core, whatever else the record says. -/
theorem topPage_gives_of_found (serves : Serves reader) {record : ProcessRecord}
    (loaded : record.flags.has .loaded = true) {slot : Nat} {process : Process}
    (found : reader.kernel.tables.processes.get? slot = some process)
    (top : record.address.toNat + record.size.toNat = 64 + slot + 8) :
    Gives (topPage record) reader (some (Device.Memory.imagePage process.image)) reader := by
  have bounded : slot < reader.kernel.tables.processes.size :=
    (List.getElem?_eq_some_iff.mp found).1
  have covers : Device.Memory.Covers reader.kernel.tables (64 * (64 + slot))
      AddressMap.imagePageSize (.image slot) := ⟨bounded, Nat.mul_add 64 64 slot, rfl⟩
  rw [topPage, pageOffset?_of_click top]
  dsimp only
  rw [if_pos loaded]
  refine (read_gives_of_covers serves covers).bind ?_
  dsimp only [Device.Memory.readWindow]
  rw [List.length_replicate, if_pos rfl, found]
  exact Gives.pure _

/-- A shown record leads to the place of the address map where its own image stands. -/
theorem top_shownRecord {slot : Nat} (bounded : slot < AddressMap.processSlots)
    (record : ProcessRecord) :
    (Device.Memory.shownRecord slot record).address.toNat +
      (Device.Memory.shownRecord slot record).size.toNat = 64 + slot + 8 := by
  have small : slot < 50 := bounded
  have address : (AddressMap.imageClick slot).toNat = 64 + slot := by
    rw [AddressMap.imageClick, UInt16.toNat_ofNat']
    show (4096 / 64 + slot) % 2 ^ 16 = 64 + slot
    omega
  rw [← address]
  rfl

theorem topPage_gives (serves : Serves reader) {slot : Nat} {process : Process}
    (found : reader.kernel.tables.processes.get? slot = some process) :
    Gives (topPage (Device.Memory.shownRecord slot process.record)) reader
      (some (Device.Memory.imagePage process.image)) reader := by
  have inTable : slot < AddressMap.processSlots :=
    Nat.lt_of_lt_of_le (List.getElem?_eq_some_iff.mp found).1 reader.kernel.tables.processes.fits
  exact topPage_gives_of_found serves (has_adding process.record.flags .loaded) found
    (top_shownRecord inTable process.record)

/-- The addresses that a reader follows are those at which a terminal's header may stand. -/
theorem isTerminalAddress_iff {address : Nat} :
    isTerminalAddress address = true ↔
      ∃ unit < AddressMap.terminalSlots, address = AddressMap.terminal unit := by
  simp only [isTerminalAddress, Bool.and_eq_true, decide_eq_true_eq, beq_iff_eq]
  simp only [AddressMap.terminalTable, AddressMap.terminal, AddressMap.terminalSlots,
    AddressMap.terminalRecordSize]
  constructor
  · rintro ⟨⟨above, below⟩, aligned⟩
    exact ⟨(address - 1024) / 32, by omega, by omega⟩
  · rintro ⟨unit, bounded, rfl⟩
    omega

theorem terminalAt_gives_some (serves : Serves reader) {unit : Nat} {terminal : Terminal}
    (found : reader.kernel.tables.terminals.get? unit = some terminal) {address : UInt16}
    (here : address.toNat = AddressMap.terminal unit) :
    Gives (terminalAt address) reader (some terminal.header.deviceNumber) reader := by
  have bounded : unit < reader.kernel.tables.terminals.size :=
    (List.getElem?_eq_some_iff.mp found).1
  have followed : isTerminalAddress address.toNat = true :=
    isTerminalAddress_iff.mpr
      ⟨unit, Nat.lt_of_lt_of_le bounded reader.kernel.tables.terminals.fits, here⟩
  have covers : Device.Memory.Covers reader.kernel.tables address.toNat
      AddressMap.terminalRecordSize (.terminal unit) := ⟨bounded, here, rfl⟩
  rw [terminalAt, if_pos followed]
  refine (read_gives_of_covers serves covers).bind ?_
  dsimp only [Device.Memory.readWindow]
  rw [found]
  dsimp only
  rw [if_pos (show terminal.header.toBytes.length = AddressMap.terminalRecordSize from rfl),
    Terminal.Header.ofBytes_toBytes]
  exact Gives.pure _

theorem terminalAt_gives_none (serves : Serves reader) {address : UInt16}
    (nowhere : ∀ unit < reader.kernel.tables.terminals.size,
      address.toNat ≠ AddressMap.terminal unit) :
    Gives (terminalAt address) reader none reader := by
  rw [terminalAt]
  split
  case isFalse => exact Gives.pure none
  case isTrue followed =>
    -- The address is that of a slot, but no terminal is in it.
    obtain ⟨slot, inTable, here⟩ := isTerminalAddress_iff.mp followed
    have free : reader.kernel.tables.terminals.size ≤ slot :=
      Nat.le_of_not_lt fun taken => nowhere slot taken here
    rw [here]
    exact (read_gives_of_not_covers serves
      (Device.Memory.not_covers_free_terminal inTable free)).bind (Gives.pure none)

end KernelReader

end SixthEdition
