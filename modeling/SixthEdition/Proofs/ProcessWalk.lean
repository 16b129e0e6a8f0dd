/-
This file proves that a lister which knows the system only through kernel
memory finds what a walk over the tables themselves finds. The walk looks at
each slot in its order, passes over the unused ones, and takes the image and the
terminal straight from the tables.

The slot of a process counts the unused slots before it. It does not show in
the list of records that the lister works through, but each record carries the
address of its own image.
-/

import SixthEdition.Proofs.Reading

namespace SixthEdition

/-! ### The walk -/

namespace Tables

/-- The device number of the terminal whose header stands at an address. -/
def terminalNumber? (tables : Tables) (address : UInt16) : Option DeviceNumber :=
  (tables.terminals.entries.zipIdx.find? fun (_, unit) => address.toNat = 1024 + 32 * unit).map
    fun (terminal, _) => terminal.header.deviceNumber

/-- The last page of an image, or all of it with zeros behind. -/
def lastPage (image : Bytes) : Bytes :=
  if 512 ≤ image.length then image.drop (image.length - 512)
  else image ++ List.replicate (512 - image.length) 0

/-- What is listed for the process in a slot. -/
def walkEntry (tables : Tables) (slot : Nat) (process : Process) : ProcessEntry where
  record :=
    { process.record with
      flags := ⟨process.record.flags.bits ||| 1⟩
      address := UInt16.ofNat (64 + slot)
      size := 8 }
  terminal := tables.terminalNumber? process.record.terminal
  command :=
    if process.record.status = 5 then some "<defunct>"
    else if process.record.id = 0 then some "swapper"
    else CommandText.ofPage? (lastPage process.image)

/-- The processes with the slots that they are in. -/
def occupied (tables : Tables) : List (Process × Nat) :=
  tables.processes.entries.zipIdx.filter fun (process, _) => process.record.status ≠ 0

def walk (tables : Tables) : List ProcessEntry :=
  tables.occupied.map fun (process, slot) => tables.walkEntry slot process

theorem terminalNumber?_eq_some_iff {tables : Tables} {address : UInt16} {number : DeviceNumber} :
    tables.terminalNumber? address = some number ↔
      ∃ unit terminal, tables.terminals.get? unit = some terminal ∧
        address.toNat = 1024 + 32 * unit ∧ terminal.header.deviceNumber = number := by
  rw [terminalNumber?, Option.map_eq_some_iff]
  constructor
  · rintro ⟨⟨terminal, unit⟩, found, rfl⟩
    have chosen := List.find?_some found
    have here : address.toNat = 1024 + 32 * unit := of_decide_eq_true chosen
    exact ⟨unit, terminal, List.mem_zipIdx_iff_getElem?.mp (List.mem_of_find?_eq_some found), here,
      rfl⟩
  · rintro ⟨unit, terminal, found, here, rfl⟩
    have member : (terminal, unit) ∈ tables.terminals.entries.zipIdx :=
      List.mem_zipIdx_iff_getElem?.mpr found
    cases first : tables.terminals.entries.zipIdx.find?
      fun (_, unit) => decide (address.toNat = 1024 + 32 * unit) with
    | none => exact absurd (decide_eq_true here) (List.find?_eq_none.mp first _ member)
    | some other =>
      -- Another terminal at the same address would have the same unit number.
      obtain ⟨otherTerminal, otherUnit⟩ := other
      have chosen := List.find?_some first
      have there : address.toNat = 1024 + 32 * otherUnit := of_decide_eq_true chosen
      have same : otherUnit = unit := by omega
      subst same
      have otherFound := List.mem_zipIdx_iff_getElem?.mp (List.mem_of_find?_eq_some first)
      rw [Table.get?] at found
      have sameTerminal := Option.some.inj (otherFound.symm.trans found)
      exact ⟨_, rfl, congrArg (·.header.deviceNumber) sameTerminal⟩

theorem terminalNumber?_eq_none_iff {tables : Tables} {address : UInt16} :
    tables.terminalNumber? address = none ↔
      ∀ unit < tables.terminals.size, address.toNat ≠ 1024 + 32 * unit := by
  rw [Option.eq_none_iff_forall_ne_some]
  constructor
  · intro unlisted unit bounded here
    exact unlisted _ (terminalNumber?_eq_some_iff.mpr
      ⟨unit, tables.terminals.entries[unit], List.getElem?_eq_getElem bounded, here, rfl⟩)
  · intro nowhere number listed
    obtain ⟨unit, terminal, found, here, -⟩ := terminalNumber?_eq_some_iff.mp listed
    exact nowhere unit (List.getElem?_eq_some_iff.mp found).1 here

/-- The records that are shown of the slots in use. -/
theorem filter_shownRecords (tables : Tables) :
    (Device.Memory.shownRecords tables).filter (·.status ≠ 0) =
      tables.occupied.map fun (process, slot) =>
        Device.Memory.shownRecord slot process.record := by
  rw [Device.Memory.shownRecords, List.mapIdx_eq_zipIdx_map, List.filter_map]
  rfl

theorem length_filter_zipIdx (processes : List Process) :
    (processes.zipIdx.filter fun (process, _) => process.record.status ≠ 0).length =
      processes.countP (·.record.status ≠ 0) := by
  have forgotten := congrArg (List.countP fun process => decide (process.record.status ≠ 0))
    (List.zipIdx_map_fst 0 processes)
  rw [List.countP_map] at forgotten
  rw [← List.countP_eq_length_filter]
  exact forgotten

theorem length_walk (tables : Tables) :
    tables.walk.length = tables.processes.entries.countP (·.record.status ≠ 0) :=
  (List.length_map _).trans (length_filter_zipIdx tables.processes.entries)

/-- The number of processes that are listed before the one in a slot. -/
def listedBefore (tables : Tables) (slot : Nat) : Nat :=
  (tables.processes.entries.take slot).countP (·.record.status ≠ 0)

/-- A process in use is listed behind those in the slots before its own. -/
theorem walk_getElem? {tables : Tables} {slot : Nat} {process : Process}
    (found : tables.processes.get? slot = some process) (used : process.record.status ≠ 0) :
    tables.walk[tables.listedBefore slot]? = some (tables.walkEntry slot process) := by
  obtain ⟨bounded, here⟩ := List.getElem?_eq_some_iff.mp found
  have length : (tables.processes.entries.take slot).length = slot :=
    List.length_take_of_le (Nat.le_of_lt bounded)
  have whole : tables.processes.entries = tables.processes.entries.take slot ++
      process :: tables.processes.entries.drop (slot + 1) := by
    rw [← here, ← List.drop_eq_getElem_cons bounded, List.take_append_drop]
  obtain ⟨later, occupied⟩ : ∃ later, tables.occupied =
      (tables.processes.entries.take slot).zipIdx.filter
        (fun (process, _) => process.record.status ≠ 0) ++ (process, slot) :: later := by
    have split := congrArg List.zipIdx whole
    rw [List.zipIdx_append, List.zipIdx_cons, length, Nat.zero_add] at split
    rw [occupied, split, List.filter_append]
    refine ⟨_, congrArg _ (List.filter_cons_of_pos ?_)⟩
    exact decide_eq_true used
  have counted : ((tables.processes.entries.take slot).zipIdx.filter
      (fun (process, _) => process.record.status ≠ 0)).length = tables.listedBefore slot :=
    length_filter_zipIdx _
  rw [walk, List.getElem?_map, occupied, ← counted, List.getElem?_append_right (Nat.le_refl _),
    Nat.sub_self]
  rfl

end Tables

namespace ProcessStatus

theorem ofNumber?_eq_some_iff {number : UInt8} {status : ProcessStatus} :
    ofNumber? number = some status ↔ number = status.number := by
  constructor
  · intro found
    have chosen := List.find?_some found
    exact (beq_iff_eq.mp chosen).symm
  · rintro rfl
    cases status <;> rfl

end ProcessStatus

/-! ### The lister's way to it -/

namespace KernelReader

open Reading

variable {reader : KernelReader}

theorem terminalAt_gives (serves : Serves reader) (address : UInt16) :
    Gives (terminalAt address) reader (reader.kernel.tables.terminalNumber? address) reader := by
  cases listed : reader.kernel.tables.terminalNumber? address with
  | some number =>
    obtain ⟨unit, terminal, found, here, rfl⟩ := Tables.terminalNumber?_eq_some_iff.mp listed
    exact terminalAt_gives_some serves found here
  | none => exact terminalAt_gives_none serves (Tables.terminalNumber?_eq_none_iff.mp listed)

theorem command_gives (serves : Serves reader) {slot : Nat} {process : Process}
    (found : reader.kernel.tables.processes.get? slot = some process) :
    Gives (command (Device.Memory.shownRecord slot process.record)) reader
      (reader.kernel.tables.walkEntry slot process).command reader := by
  have zombie : (Device.Memory.shownRecord slot process.record).status? = some .zombie ↔
      process.record.status = 5 := ProcessStatus.ofNumber?_eq_some_iff
  have swapper : (Device.Memory.shownRecord slot process.record).id = process.record.id := rfl
  rw [command, Tables.walkEntry, swapper]
  simp only [zombie]
  split
  · exact Gives.pure _
  · split
    · exact Gives.pure _
    · have page := topPage_gives serves found
      rw [Device.Memory.imagePage_eq] at page
      exact page.bind (Gives.pure _)

theorem entry_gives (serves : Serves reader) {slot : Nat} {process : Process}
    (found : reader.kernel.tables.processes.get? slot = some process) :
    Gives (entry (Device.Memory.shownRecord slot process.record)) reader
      (reader.kernel.tables.walkEntry slot process) reader :=
  (command_gives serves found).bind
    ((terminalAt_gives serves process.record.terminal).bind (Gives.pure _))

theorem entries_give (serves : Serves reader) :
    Gives entries reader reader.kernel.tables.walk
      { reader with swap := some AddressMap.swapDeviceNumber } := by
  have probed := serves.withSwap (some AddressMap.swapDeviceNumber)
  have table := records_give probed
  rw [Tables.filter_shownRecords] at table
  refine (probeSwap_gives serves).bind (table.bind ?_)
  rw [List.mapM_map]
  refine Gives.mapM fun ⟨process, slot⟩ member => ?_
  have found := List.mem_zipIdx_iff_getElem?.mp (List.mem_filter.mp member).1
  exact entry_gives probed found

/-- Through any switch that has kernel memory at its place, opening kernel memory, listing the
processes and closing it all go well and leave the kernel as it was, and what is listed is the walk
over the tables. In the walk, a terminal address stands for the terminal whose header is at that
place, and for none where no header is. -/
theorem session_gives_walk (reader : KernelReader)
    (memory : reader.switch.resolve Major.memory = .memory)
    (quiet : reader.kernel.error = none) :
    openMemory.run reader = (.ok (), reader) ∧
    entries.run reader =
      (.ok reader.kernel.tables.walk, { reader with swap := some ⟨3, 1⟩ }) ∧
    closeMemory.run { reader with swap := some ⟨3, 1⟩ } =
      (.ok (), { reader with swap := some ⟨3, 1⟩ }) ∧
    (∀ address unit terminal, reader.kernel.tables.terminals.get? unit = some terminal →
      UInt16.toNat address = 1024 + 32 * unit →
      reader.kernel.tables.terminalNumber? address = some terminal.header.deviceNumber) ∧
    ∀ address,
      (∀ unit < reader.kernel.tables.terminals.size, UInt16.toNat address ≠ 1024 + 32 * unit) →
      reader.kernel.tables.terminalNumber? address = none := by
  have serves : Serves reader := ⟨memory, quiet⟩
  refine ⟨openMemory_gives serves, entries_give serves,
    closeMemory_gives (serves.withSwap _), ?_, ?_⟩
  · intro address unit terminal found here
    exact Tables.terminalNumber?_eq_some_iff.mpr ⟨unit, terminal, found, here, rfl⟩
  · intro address nowhere
    exact Tables.terminalNumber?_eq_none_iff.mpr nowhere

/-- Behind an unused slot, and with nothing but kernel memory in the switch. -/
theorem session_gives_walk_behind_unused_slot :
    let terminals : Table Terminal AddressMap.terminalSlots := ⟨[.fresh ⟨4, 9⟩], by decide⟩
    let processes : Table Process AddressMap.processSlots :=
      ⟨[⟨{}, []⟩, ⟨{ status := 3, id := 7, terminal := 1024 }, [0xFF, 0xFF, 108, 115]⟩],
        by decide⟩
    let reader : KernelReader :=
      { switch := ⟨[none, some .memory]⟩, kernel := { tables := ⟨processes, terminals⟩ } }
    reader.switch.resolve Major.memory = .memory ∧ reader.kernel.error = none ∧
    entries.run reader =
      (.ok [{
        record :=
          { status := 3, flags := ⟨1⟩, id := 7, terminal := 1024, address := 65, size := 8 }
        terminal := some ⟨4, 9⟩
        command := some "ls" }], { reader with swap := some ⟨3, 1⟩ }) := by
  intro terminals processes reader
  have memory : reader.switch.resolve Major.memory = .memory := rfl
  have walk : reader.kernel.tables.walk =
      [{
        record :=
          { status := 3, flags := ⟨1⟩, id := 7, terminal := 1024, address := 65, size := 8 }
        terminal := some ⟨4, 9⟩
        command := some "ls" }] := by decide +kernel
  obtain ⟨-, listed, -⟩ := session_gives_walk reader memory rfl
  rw [walk] at listed
  exact ⟨memory, rfl, listed⟩

end KernelReader

end SixthEdition
