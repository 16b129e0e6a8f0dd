/-
This file proves that a reader of kernel memory never gets the page of another
process. The reader takes an address and a size out of a record, in clicks, and
asks for the page that ends there. Whatever the two are, the answer is the last
page of the image whose place that is, or there is none.

The sum is made in numbers that have room for it, and a record too small for a
page leads nowhere. A multiple of the click size is never the start of the
process table, and the two other windows answer to shorter reads only, so that a
page is never taken from anywhere but an image. The swap device of the standard
switch is a null device and holds no page at all.
-/

import SixthEdition.Proofs.OpenReads
import SixthEdition.Proofs.ProcessWalk

namespace SixthEdition

/-! ### The page that a record asks for -/

namespace Tables

variable {tables : Tables} {record : ProcessRecord}

/-- The last page of the image that ends where a record says, if the record says too that the image
is in core. The images stand in a row, and the page of the first one ends at click 72. -/
def recordedPage? (tables : Tables) (record : ProcessRecord) : Option Bytes :=
  let top := record.address.toNat + record.size.toNat
  if record.flags.has .loaded ∧ 72 ≤ top then
    (tables.processes.get? (top - 72)).map fun process => lastPage process.image
  else none

theorem recordedPage?_eq_some_iff {page : Bytes} :
    tables.recordedPage? record = some page ↔
      record.flags.has .loaded = true ∧ ∃ slot process,
        tables.processes.get? slot = some process ∧
          record.address.toNat + record.size.toNat = 72 + slot ∧ lastPage process.image = page := by
  rw [recordedPage?, Option.ite_none_right_eq_some, Option.map_eq_some_iff]
  constructor
  · rintro ⟨⟨loaded, above⟩, process, found, own⟩
    exact ⟨loaded, _, process, found, (Nat.add_sub_cancel' above).symm, own⟩
  · rintro ⟨loaded, slot, process, found, top, own⟩
    rw [top, Nat.add_sub_cancel_left]
    exact ⟨⟨loaded, Nat.le_add_right 72 slot⟩, process, found, own⟩

theorem recordedPage?_eq_none_iff (loaded : record.flags.has .loaded = true) :
    tables.recordedPage? record = none ↔
      ∀ slot < tables.processes.size, record.address.toNat + record.size.toNat ≠ 72 + slot := by
  rw [Option.eq_none_iff_forall_ne_some]
  constructor
  · intro noPage slot bounded top
    exact noPage _ (recordedPage?_eq_some_iff.mpr
      ⟨loaded, slot, _, List.getElem?_eq_getElem bounded, top, rfl⟩)
  · intro outside page given
    obtain ⟨-, slot, process, found, top, -⟩ := recordedPage?_eq_some_iff.mp given
    exact outside slot (List.getElem?_eq_some_iff.mp found).1 top

/-- The click at which the page starts is that of an image in the table. -/
theorem isSome_recordedPage?_iff :
    let click : Int := record.address.toNat + record.size.toNat - 8
    (tables.recordedPage? record).isSome ↔
      record.flags.has .loaded ∧ 64 ≤ click ∧ click < 64 + tables.processes.size := by
  intro click
  rw [Option.isSome_iff_exists]
  simp only [recordedPage?_eq_some_iff]
  constructor
  · rintro ⟨page, loaded, slot, process, found, top, -⟩
    have bounded : slot < tables.processes.size := (List.getElem?_eq_some_iff.mp found).1
    exact ⟨loaded, by omega, by omega⟩
  · rintro ⟨loaded, above, below⟩
    obtain ⟨slot, start⟩ : ∃ slot : Nat, click = 64 + slot := ⟨(click - 64).toNat, by omega⟩
    have bounded : slot < tables.processes.size := by omega
    exact ⟨_, loaded, slot, _, List.getElem?_eq_getElem bounded, by omega, rfl⟩

end Tables

namespace KernelReader

open Reading

variable {kernel : Kernel} {reader : KernelReader} {record : ProcessRecord}

/-! ### Places without a page -/

/-- A page that starts at a click lies in no window but that of an image. -/
theorem not_covers_click {tables : Tables} {click : Nat}
    (outside : ∀ slot < tables.processes.size, click ≠ 64 + slot)
    (window : Device.Memory.Window) :
    ¬ Device.Memory.Covers tables (64 * click) AddressMap.imagePageSize window := by
  have length : AddressMap.imagePageSize = 512 := rfl
  intro covers
  cases window with
  | image slot =>
    obtain ⟨bounded, start, -⟩ := covers
    exact outside slot bounded (by omega)
  | swapDevice | processTable | terminal unit =>
    -- The lengths differ, or, for the process table, the start is no multiple of 64.
    simp only [Device.Memory.Covers] at covers
    omega

theorem topPage_gives_none_of_outside (serves : Serves reader)
    (loaded : record.flags.has .loaded = true)
    (outside : ∀ slot < reader.kernel.tables.processes.size,
      record.address.toNat + record.size.toNat ≠ 72 + slot) :
    Gives (topPage record) reader none reader := by
  rw [topPage]
  by_cases small : record.address.toNat + record.size.toNat < 8
  · rw [pageOffset?, if_pos small]
    exact Gives.pure none
  · obtain ⟨click, top⟩ : ∃ click, record.address.toNat + record.size.toNat = click + 8 :=
      ⟨_, (Nat.sub_add_cancel (Nat.not_lt.mp small)).symm⟩
    have nowhere : ∀ slot < reader.kernel.tables.processes.size, click ≠ 64 + slot := by
      intro slot bounded here
      exact outside slot bounded (by omega)
    rw [pageOffset?_of_click top]
    dsimp only
    rw [if_pos loaded]
    refine (read_gives_of_not_covers serves (not_covers_click nowhere)).bind ?_
    rw [List.length_replicate, if_neg (show 0 ≠ AddressMap.imagePageSize by decide)]
    exact Gives.pure none

/-! ### The standard switch -/

/-- The reader has kernel memory open through the standard switch. It does not know a swap device
yet, or knows the one that kernel memory names. -/
structure OpenOver (kernel : Kernel) (reader : KernelReader) : Prop where
  switch_eq : reader.switch = .standard
  kernel_eq : reader.kernel = kernel
  quiet : kernel.error = none
  swap_eq : ∀ swap, reader.swap = some swap → swap = AddressMap.swapDeviceNumber

theorem openMemory_openOver {opened : KernelReader}
    (opens : openMemory.run { switch := .standard, kernel } = (.ok (), opened)) :
    OpenOver kernel opened := by
  have quiet : kernel.error = none := (openMemory_eq_ok_iff.mp (congrArg Prod.fst opens)).2
  have gives : Gives openMemory { switch := .standard, kernel } ()
      { switch := .standard, kernel } := openMemory_gives ⟨rfl, quiet⟩
  obtain rfl := congrArg Prod.snd (opens.symm.trans gives)
  exact ⟨rfl, rfl, quiet, nofun⟩

namespace OpenOver

theorem serves (isOpen : OpenOver kernel reader) : Serves reader where
  memory := by
    rw [isOpen.switch_eq]
    rfl
  quiet := by rw [isOpen.kernel_eq, isOpen.quiet]

theorem withSwap (isOpen : OpenOver kernel reader) :
    OpenOver kernel { reader with swap := some AddressMap.swapDeviceNumber } :=
  ⟨isOpen.switch_eq, isOpen.kernel_eq, isOpen.quiet, fun _ known => (Option.some.inj known).symm⟩

theorem swapRead_gives (isOpen : OpenOver kernel reader) (offset : Nat) (buffer : Bytes) :
    Gives (request AddressMap.swapDeviceNumber (.read offset buffer)) reader { buffer } reader := by
  obtain ⟨switch, reached, swap⟩ := reader
  obtain rfl : switch = .standard := isOpen.switch_eq
  rfl

/-- No image has been swapped out to the swap device that kernel memory names. -/
theorem topPage_gives_none_of_not_loaded (isOpen : OpenOver kernel reader)
    (notLoaded : record.flags.has .loaded = false) :
    Gives (topPage record) reader none reader := by
  rw [topPage]
  cases pageOffset? record with
  | none => exact Gives.pure none
  | some offset =>
    dsimp only
    rw [if_neg (Bool.eq_false_iff.mp notLoaded)]
    refine Gives.get.bind ?_
    cases known : reader.swap with
    | none => exact Gives.pure none
    | some swap =>
      have gives := isOpen.swapRead_gives offset (List.replicate AddressMap.imagePageSize 0)
      rw [isOpen.swap_eq swap known]
      refine gives.bind ((check_gives isOpen.serves .swapRead).bind ?_)
      rw [List.length_replicate, if_neg (show 0 ≠ AddressMap.imagePageSize by decide)]
      exact Gives.pure none

theorem topPage_gives_recordedPage (isOpen : OpenOver kernel reader) (record : ProcessRecord) :
    Gives (topPage record) reader (kernel.tables.recordedPage? record) reader := by
  have kernelEq : reader.kernel = kernel := isOpen.kernel_eq
  subst kernelEq
  cases loaded : record.flags.has .loaded with
  | false =>
    have noPage : reader.kernel.tables.recordedPage? record = none :=
      if_neg fun asked => absurd asked.1 (Bool.eq_false_iff.mp loaded)
    rw [noPage]
    exact isOpen.topPage_gives_none_of_not_loaded loaded
  | true =>
    cases recorded : reader.kernel.tables.recordedPage? record with
    | none =>
      exact topPage_gives_none_of_outside isOpen.serves loaded
        ((Tables.recordedPage?_eq_none_iff loaded).mp recorded)
    | some page =>
      obtain ⟨-, slot, process, found, top, rfl⟩ := Tables.recordedPage?_eq_some_iff.mp recorded
      have gives := topPage_gives_of_found isOpen.serves loaded found (by omega)
      rwa [Device.Memory.imagePage_eq] at gives

theorem perform (isOpen : OpenOver kernel reader) (operation : Operation) :
    OpenOver kernel (operation.perform.run reader).2 := by
  -- Only looking up the swap device changes the reader.
  have kept {Value : Type} {reading : Reading Value} {value : Value}
      (gives : Gives reading reader value reader) : OpenOver kernel (reading.run reader).2 := by
    rw [gives]
    exact isOpen
  cases operation with
  | read offset buffer => exact kept (read_gives isOpen.serves offset buffer)
  | peek offset length =>
    rcases Nat.lt_or_ge bufferLimit length with long | short
    · rw [Operation.perform, peek_fails long offset]
      exact isOpen
    · exact kept (peek_gives_of_read short (read_gives isOpen.serves offset _))
  | probeSwap =>
    rw [Operation.perform, probeSwap_gives isOpen.serves]
    exact isOpen.withSwap
  | records => exact kept (records_give isOpen.serves)
  | topPage record => exact kept (isOpen.topPage_gives_recordedPage record)
  | terminalAt address => exact kept (terminalAt_gives isOpen.serves address)
  | entries =>
    rw [Operation.perform, entries_give isOpen.serves]
    exact isOpen.withSwap

theorem afterAll (isOpen : OpenOver kernel reader) (operations : List Operation) :
    OpenOver kernel (Operation.afterAll operations reader) := by
  induction operations generalizing reader with
  | nil => exact isOpen
  | cons operation rest inductionHypothesis =>
    exact inductionHypothesis (isOpen.perform operation)

end OpenOver

/-- No reader of kernel memory gets a page that is not the one it asked for. Behind an open of
kernel memory through the standard switch, in any system and after any operations, the page at the
top of the image of any record can be had exactly if the record says that the image is in core and
the click at which the page starts, a whole number without a bound, is that of a process in the
table. It is then the last page of the image of that process. Neither the kernel nor the reader
changes. -/
theorem topPage_reads_own_image {kernel : Kernel} {opened : KernelReader}
    (opens : openMemory.run { switch := .standard, kernel } = (.ok (), opened))
    (operations : List Operation) (record : ProcessRecord) :
    let reader := Operation.afterAll operations opened
    let click : Int := record.address.toNat + record.size.toNat - 8
    reader.kernel = kernel ∧
    ∃ page : Option Bytes,
      (topPage record).run reader = (.ok page, reader) ∧
      (page.isSome ↔ record.flags.has .loaded ∧
        64 ≤ click ∧ click < 64 + kernel.tables.processes.size) ∧
      ∀ bytes, page = some bytes →
        ∃ process, kernel.tables.processes.get? (click - 64).toNat = some process ∧
          bytes = Tables.lastPage process.image := by
  intro reader click
  have isOpen : OpenOver kernel reader := (openMemory_openOver opens).afterAll operations
  refine ⟨isOpen.kernel_eq, _, isOpen.topPage_gives_recordedPage record,
    Tables.isSome_recordedPage?_iff, fun bytes recorded => ?_⟩
  obtain ⟨-, slot, process, found, top, rfl⟩ := Tables.recordedPage?_eq_some_iff.mp recorded
  have place : (click - 64).toNat = slot := by omega
  exact ⟨process, place ▸ found, rfl⟩

/-- Two records in a system of two processes. The sum of the first is the place of the second
process; that of the second would be the place of the first process if it were made in words. -/
theorem topPage_reads_own_image_beyond_words :
    let processes : Table Process AddressMap.processSlots :=
      ⟨[⟨{}, [1]⟩, ⟨{ id := 7 }, [2, 3]⟩], by decide⟩
    let start : KernelReader := { switch := .standard, kernel := { tables := ⟨processes, .empty⟩ } }
    let reader := Operation.afterAll [.probeSwap] (openMemory.run start).2
    (openMemory.run start).1 = .ok () ∧
    (topPage { flags := .loaded, address := 8, size := 65 }).run reader =
      (.ok (some (Tables.lastPage [2, 3])), reader) ∧
    (topPage { flags := .loaded, address := 65535, size := 73 }).run reader =
      (.ok none, reader) := by
  intro processes start reader
  have opens : openMemory.run start = (.ok (), (openMemory.run start).2) := rfl
  obtain ⟨-, inside, gives, some_iff, own⟩ := topPage_reads_own_image opens [.probeSwap]
    { flags := .loaded, address := 8, size := 65 }
  obtain ⟨-, around, givesAround, around_iff, -⟩ := topPage_reads_own_image opens [.probeSwap]
    { flags := .loaded, address := 65535, size := 73 }
  refine ⟨rfl, ?_, ?_⟩
  · obtain ⟨bytes, rfl⟩ := Option.isSome_iff_exists.mp (some_iff.mpr (by decide))
    obtain ⟨process, found, rfl⟩ := own bytes rfl
    obtain rfl := Option.some.inj found
    exact gives
  · have noPage : around = none :=
      Option.not_isSome_iff_eq_none.mp fun page => absurd (around_iff.mp page) (by decide)
    rwa [noPage] at givesAround

end KernelReader

end SixthEdition
