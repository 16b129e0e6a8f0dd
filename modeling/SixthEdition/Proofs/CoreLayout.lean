/-
This file proves how a system lies in core that has been built from its
description. The image of a process starts where the images before it end, so
that its place is known from the sizes of the images up to its own. All sums
stay below the top of core, which is also the largest address that a record can
give: no address wraps around, and what the records say of the places of two
images is what is true of them.

An image of no size would take up no clicks, but there is none: even the vector
of no arguments takes up four bytes.
-/

import SixthEdition.Proofs.BuildFaults

namespace SixthEdition

/-- The image lies on a click of core. -/
def ProcessRecord.Occupies (record : ProcessRecord) (click : Nat) : Prop :=
  record.address.toNat ≤ click ∧ click < record.address.toNat + record.size.toNat

/-! ### One entry -/

namespace TerminalDescription

variable (description : TerminalDescription) (unit : Nat)

theorem deviceNumber_terminal :
    (description.terminal unit).header.deviceNumber = ⟨4, UInt8.ofNat unit⟩ :=
  DeviceNumber.ofWord_word _

theorem modes_terminal :
    (description.terminal unit).header.modes.bits = description.modes.getD 0o30 := by
  rw [terminal]
  cases description.modes <;> rfl

end TerminalDescription

namespace ProcessDescription

/-- A process has all that is described of it. -/
structure Realizes (description : ProcessDescription) (process : Process) : Prop where
  id_eq : process.record.id = description.id
  parent_eq : process.record.parent = description.parent
  user_eq : process.record.user = description.user
  priority_eq : process.record.priority = description.priority
  nice_eq : process.record.nice = description.nice
  waitChannel_eq : process.record.waitChannel = description.waitChannel
  status_eq : process.record.status = description.status.number
  flags_eq : process.record.flags.bits = description.flags ||| 1
  length_eq : process.image.length = description.imageSize.toNat
  terminal_eq : process.record.terminal.toNat =
    (description.terminal.map fun unit => 1024 + 32 * unit.toNat).getD 0

variable {description : ProcessDescription} {terminals start : Nat} {process : Process}

theorem Describes.realizes (describes : description.Describes terminals start process)
    (units : terminals ≤ AddressMap.terminalSlots) : description.Realizes process := by
  have image := Arguments.length_of_layOut describes.image_eq
  rw [List.length_replicate] at image
  have terminal : process.record.terminal.toNat =
      (description.terminal.map fun unit => 1024 + 32 * unit.toNat).getD 0 := by
    rw [describes.record_eq]
    cases asked : description.terminal with
    | none => rfl
    | some unit =>
      exact AddressMap.toNat_terminal (Nat.lt_of_lt_of_le (describes.known unit asked) units)
  refine ⟨?_, ?_, ?_, ?_, ?_, ?_, ?_, ?_, image, terminal⟩ <;>
    · rw [describes.record_eq]
      rfl

theorem Describes.address_eq (describes : description.Describes terminals start process) :
    process.record.address.toNat = start := by
  have inCore : start + description.clicks ≤ 65535 := describes.inCore
  rw [describes.record_eq]
  exact UInt16.toNat_ofNat_of_lt' (show start < 65536 by omega)

theorem Describes.size_eq (describes : description.Describes terminals start process) :
    process.record.size.toNat = description.clicks := by
  have inCore : start + description.clicks ≤ 65535 := describes.inCore
  rw [describes.record_eq]
  exact UInt16.toNat_ofNat_of_lt' (show description.clicks < 65536 by omega)

theorem Describes.clicks_pos (describes : description.Describes terminals start process) :
    0 < description.clicks := by
  obtain ⟨fits, -⟩ := Arguments.eq_of_layOut describes.image_eq
  rw [List.length_replicate, Arguments.vectorSize] at fits
  have occupied : ¬ description.clicks ≤ 0 := by
    rw [description.clicks_le_iff]
    omega
  exact Nat.lt_of_not_le occupied

theorem Describes.exists_occupies (describes : description.Describes terminals start process) :
    ∃ click, process.record.Occupies click := by
  refine ⟨process.record.address.toNat, Nat.le_refl _, ?_⟩
  rw [describes.size_eq]
  exact Nat.lt_add_of_pos_right describes.clicks_pos

/-- One click less would not hold the image. -/
theorem Describes.size_bounds (describes : description.Describes terminals start process) :
    64 * (process.record.size.toNat - 1) < description.imageSize.toNat ∧
      description.imageSize.toNat ≤ 64 * process.record.size.toNat := by
  have positive := describes.clicks_pos
  have least : ¬ description.clicks ≤ description.clicks - 1 := by omega
  rw [description.clicks_le_iff] at least
  rw [describes.size_eq]
  exact ⟨Nat.lt_of_not_le least, (description.clicks_le_iff _).mp (Nat.le_refl _)⟩

end ProcessDescription

/-! ### All processes -/

namespace Description

/-- The click at which the image of the process in a slot starts. -/
def startOf (processes : List ProcessDescription) (start slot : Nat) : Nat :=
  start + ((processes.take slot).map ProcessDescription.clicks).sum

/-- The next image starts where an image ends. -/
theorem startOf_succ {processes : List ProcessDescription} {slot : Nat}
    {process : ProcessDescription} (described : processes[slot]? = some process) (start : Nat) :
    startOf processes start (slot + 1) = startOf processes start slot + process.clicks := by
  rw [startOf, startOf, List.take_add_one, described, List.map_append, List.sum_append,
    ← Nat.add_assoc]
  rfl

theorem startOf_mono (processes : List ProcessDescription) (start : Nat) {slot later : Nat}
    (before : slot ≤ later) : startOf processes start slot ≤ startOf processes start later := by
  have split : processes.take later =
      processes.take slot ++ (processes.drop slot).take (later - slot) := by
    rw [← List.take_add, Nat.add_sub_cancel' before]
  rw [startOf, startOf, split, List.map_append, List.sum_append]
  omega

theorem Laid.describes_getElem? {terminals start : Nat} {descriptions : List ProcessDescription}
    {processes : List Process} (laid : Laid terminals start descriptions processes) {slot : Nat}
    {description : ProcessDescription} {process : Process}
    (described : descriptions[slot]? = some description)
    (found : processes[slot]? = some process) :
    description.Describes terminals (startOf descriptions start slot) process := by
  induction laid generalizing slot with
  | nil => cases described
  | cons first rest inductionHypothesis =>
    cases slot with
    | zero =>
      obtain rfl := Option.some.inj described
      obtain rfl := Option.some.inj found
      exact first
    | succ slot =>
      have later := inductionHypothesis described found
      rw [startOf, Nat.add_assoc, ← List.sum_cons, ← List.map_cons, ← List.take_succ_cons] at later
      exact later

section Built

variable {description : Description} {tables : Tables} (built : description.build = .ok tables)

include built

theorem terminal_of_build {unit : Nat} {terminal : TerminalDescription}
    (described : description.terminals[unit]? = some terminal) :
    tables.terminals.get? unit = some (terminal.terminal unit) := by
  obtain ⟨terminals, -⟩ := laid_of_build built
  rw [Table.get?, terminals, List.getElem?_map, List.getElem?_zipIdx, described, Nat.zero_add]
  rfl

theorem terminals_size_of_build : tables.terminals.size = description.terminals.length := by
  obtain ⟨terminals, -⟩ := laid_of_build built
  rw [Table.size, terminals, List.length_map, List.length_zipIdx]

theorem processes_size_of_build : tables.processes.size = description.processes.length :=
  (laid_of_build built).2.length_eq

/-- The process in a slot is the one that is described there, from the click on at which the images
before it end. -/
theorem describes_of_build {slot : Nat} {process : Process}
    (found : tables.processes.get? slot = some process) :
    ∃ described, description.processes[slot]? = some described ∧
      described.Describes description.terminals.length
        (startOf description.processes firstClick slot) process := by
  have bounded : slot < description.processes.length := by
    rw [← processes_size_of_build built]
    exact (List.getElem?_eq_some_iff.mp found).1
  have described := List.getElem?_eq_getElem bounded
  exact ⟨_, described, (laid_of_build built).2.describes_getElem? described found⟩

/-- An image that comes before another ends before it. -/
theorem end_le_of_build {slot later : Nat} {process another : Process}
    (found : tables.processes.get? slot = some process)
    (foundLater : tables.processes.get? later = some another) (before : slot < later) :
    process.record.address.toNat + process.record.size.toNat ≤ another.record.address.toNat := by
  obtain ⟨_, described, describes⟩ := describes_of_build built found
  obtain ⟨_, -, describesLater⟩ := describes_of_build built foundLater
  rw [describes.address_eq, describes.size_eq, describesLater.address_eq, ← startOf_succ described]
  exact startOf_mono _ _ before

theorem next_of_build {slot : Nat} {process next : Process}
    (found : tables.processes.get? slot = some process)
    (foundNext : tables.processes.get? (slot + 1) = some next) :
    next.record.address.toNat = process.record.address.toNat + process.record.size.toNat := by
  obtain ⟨_, described, describes⟩ := describes_of_build built found
  obtain ⟨_, -, describesNext⟩ := describes_of_build built foundNext
  rw [describes.address_eq, describes.size_eq, describesNext.address_eq, startOf_succ described]

/-- No two images lie on one click. -/
theorem slot_eq_of_occupies {slot other click : Nat} {process another : Process}
    (found : tables.processes.get? slot = some process)
    (foundOther : tables.processes.get? other = some another)
    (occupied : process.record.Occupies click) (alsoOccupied : another.record.Occupies click) :
    slot = other := by
  obtain ⟨starts, ends⟩ := occupied
  obtain ⟨otherStarts, otherEnds⟩ := alsoOccupied
  rcases Nat.lt_trichotomy slot other with before | same | after
  · have apart := end_le_of_build built found foundOther before
    omega
  · exact same
  · have apart := end_le_of_build built foundOther found after
    omega

end Built

/-- A system that has been built is laid out as its description says. The tables have one entry
for each that is described, in their order, and each entry has all that is described of it. The
images take up as few clicks as hold them, from click 512 on, one after the other and without a
click in common, and they end in core. -/
theorem build_lays_out_description (description : Description) (tables : Tables)
    (built : description.build = .ok tables) :
    tables.terminals.size = description.terminals.length ∧
    (∀ (unit : Nat) (described : TerminalDescription),
      description.terminals[unit]? = some described →
      ∃ terminal, tables.terminals.get? unit = some terminal ∧
        terminal.header.deviceNumber.major = 4 ∧
        terminal.header.deviceNumber.minor.toNat = unit ∧
        terminal.header.speeds = described.speeds ∧
        terminal.header.modes.bits = described.modes.getD 0o30) ∧
    tables.processes.size = description.processes.length ∧
    (∀ (slot : Nat) (described : ProcessDescription),
      description.processes[slot]? = some described →
      ∃ process, tables.processes.get? slot = some process ∧ described.Realizes process ∧
        (∃ click, process.record.Occupies click) ∧
        process.record.address.toNat + process.record.size.toNat ≤ 65535 ∧
        64 * (process.record.size.toNat - 1) < described.imageSize.toNat ∧
        described.imageSize.toNat ≤ 64 * process.record.size.toNat) ∧
    (∀ process, tables.processes.get? 0 = some process →
      process.record.address.toNat = 512) ∧
    (∀ slot process next, tables.processes.get? slot = some process →
      tables.processes.get? (slot + 1) = some next →
      next.record.address.toNat = process.record.address.toNat + process.record.size.toNat) ∧
    ∀ slot other process another, tables.processes.get? slot = some process →
      tables.processes.get? other = some another →
      ∀ click, process.record.Occupies click → another.record.Occupies click → slot = other := by
  have units : description.terminals.length ≤ AddressMap.terminalSlots :=
    terminals_size_of_build built ▸ tables.terminals.fits
  refine ⟨terminals_size_of_build built, ?terminals, processes_size_of_build built, ?processes,
    ?first, fun _ _ _ => next_of_build built,
    fun _ _ _ _ found foundOther _ => slot_eq_of_occupies built found foundOther⟩
  case terminals =>
    intro unit described here
    have bounded : unit < 9 :=
      Nat.lt_of_lt_of_le (List.getElem?_eq_some_iff.mp here).1 units
    refine ⟨_, terminal_of_build built here, ?_, ?_, rfl, described.modes_terminal unit⟩
    · rw [described.deviceNumber_terminal]
    · rw [described.deviceNumber_terminal]
      exact UInt8.toNat_ofNat_of_lt' (show unit < 256 by omega)
  case processes =>
    intro slot described here
    obtain ⟨process, -, found, -⟩ := (laid_of_build built).2.exists_process here
    have describes := (laid_of_build built).2.describes_getElem? here found
    refine ⟨process, found, describes.realizes units, describes.exists_occupies, ?_,
      describes.size_bounds⟩
    rw [describes.address_eq, describes.size_eq]
    exact describes.inCore
  case first =>
    intro process found
    obtain ⟨_, -, describes⟩ := describes_of_build built found
    exact describes.address_eq

/-- An image of one byte more than a click takes up two clicks, and the next image lies behind
them. -/
theorem build_lays_out_description_with_uneven_image :
    let description : Description :=
      { terminals := [{}, { modes := some 0xFF02, speeds := 9 }]
        processes :=
          [{ id := 1, imageSize := 65 },
            { id := 2, flags := 0x82, imageSize := 64, terminal := some 1 }] }
    ∃ tables first second, description.build = .ok tables ∧
      tables.processes.get? 0 = some first ∧ tables.processes.get? 1 = some second ∧
      first.image.length = 65 ∧ first.record.address.toNat = 512 ∧
      64 * (first.record.size.toNat - 1) < 65 ∧ 65 ≤ 64 * first.record.size.toNat ∧
      second.record.address.toNat = 512 + first.record.size.toNat ∧
      second.record.flags.bits = 0x83 ∧ second.record.terminal.toNat = 1056 ∧
      ∀ click, first.record.Occupies click → ¬ second.record.Occupies click := by
  intro description
  obtain ⟨tables, built⟩ : ∃ tables, description.build = .ok tables := ⟨_, rfl⟩
  obtain ⟨-, -, -, processes, start, next, apart⟩ :=
    build_lays_out_description description tables built
  obtain ⟨first, here, realizes, -, -, more, enough⟩ := processes 0 _ rfl
  obtain ⟨second, there, realizesSecond, -⟩ := processes 1 _ rfl
  have behind := next 0 first second here there
  rw [start first here] at behind
  refine ⟨tables, first, second, built, here, there, realizes.length_eq, start first here, more,
    enough, behind, realizesSecond.flags_eq, realizesSecond.terminal_eq, ?_⟩
  intro click occupied alsoOccupied
  exact absurd (apart 0 1 first second here there click occupied alsoOccupied) (by decide)

end Description

end SixthEdition
