/-
This file proves which descriptions build, and which fault is named of those
that do not. Whether a process has a fault depends on the sizes of the images up
to its own and on the number of terminals, and on nothing else that the building
has done so far, so the first process with a fault can be told from the
description alone. What the tables themselves refuse is never met: the counts
have been checked before the first entry is added, and a terminal before it is
attached.
-/

import Mathlib.Algebra.GroupWithZero.Nat
import Mathlib.Data.Nat.Find
import SixthEdition.Proofs.ArgumentLayout
import SixthEdition.Proofs.Building

namespace SixthEdition

/-! ### What a process asks for -/

namespace ProcessDescription

/-- The bytes of the arguments, each ended by a zero byte. -/
def stringBytes (description : ProcessDescription) : Nat :=
  (description.arguments.map fun argument => argument.utf8ByteSize + 1).sum

/-- The bytes that the arguments take up at the top of an image: a word for each, one for their
number and one of ones, and the strings padded to whole words. -/
def argumentBytes (description : ProcessDescription) : Nat :=
  2 * (description.arguments.length + 2) +
    (description.stringBytes + description.stringBytes % 2)

/-- The fault of a process that asks for a terminal that a system with so many does not have. -/
def unknownTerminal? (description : ProcessDescription) (terminals : Nat) : Option BuildFault :=
  description.terminal.bind fun unit =>
    if terminals ≤ unit.toNat then some (.unknownTerminal description.id unit.toNat) else none

/-- The first fault of a process whose image ends at a click, in a system with so many
terminals. -/
def fault? (description : ProcessDescription) (terminals top : Nat) : Option BuildFault :=
  if 65535 < description.clicks then
    some (.imageTooLarge description.id description.imageSize.toNat)
  else if 65535 < top then some (.coreExhausted description.id)
  else if description.imageSize.toNat < description.argumentBytes then
    some (.process description.id
      (.argumentsTooLarge ⟨description.argumentBytes, description.imageSize.toNat⟩))
  else description.unknownTerminal? terminals

/-- An image takes up the least number of clicks that hold it. -/
theorem clicks_le_iff (description : ProcessDescription) (limit : Nat) :
    description.clicks ≤ limit ↔ description.imageSize.toNat ≤ 64 * limit := by
  rw [clicks, Description.clicks, AddressMap.clickSize]
  omega

/-- The strings that are laid out take up just the bytes that are counted for them. -/
theorem argumentBytes_eq (description : ProcessDescription) :
    Arguments.vectorSize (description.arguments.map Bytes.ofText).length +
      (Arguments.strings (description.arguments.map Bytes.ofText)).length =
        description.argumentBytes := by
  have counted : ((description.arguments.map Bytes.ofText).flatMap (· ++ [0])).length =
      description.stringBytes := by
    rw [List.length_flatMap, List.map_map, stringBytes]
    refine congrArg List.sum (List.map_congr_left fun argument _ => ?_)
    rw [Function.comp_apply, List.length_append, Bytes.length_ofText, List.length_singleton]
  rw [Arguments.strings, Arguments.length_wordPadded, counted, Arguments.vectorSize,
    List.length_map, argumentBytes]
  omega

variable {description : ProcessDescription}

/-- Of what the tables can refuse, the arguments alone are a fault of a process. -/
theorem argumentsTooLarge_of_fault? {terminals top : Nat} {fault : BuildFault}
    (faulty : description.fault? terminals top = some fault) :
    (∀ cause, fault ≠ .tables cause) ∧
    ∀ id cause, fault = .process id cause → ∃ tooLarge, cause = .argumentsTooLarge tooLarge := by
  unfold fault? unknownTerminal? at faulty
  split at faulty
  · obtain rfl := Option.some.inj faulty
    exact ⟨nofun, nofun⟩
  split at faulty
  · obtain rfl := Option.some.inj faulty
    exact ⟨nofun, nofun⟩
  split at faulty
  · obtain rfl := Option.some.inj faulty
    exact ⟨nofun, fun _ _ same => ⟨_, (BuildFault.process.inj same).2.symm⟩⟩
  obtain ⟨unit, -, faulty⟩ := Option.bind_eq_some_iff.mp faulty
  obtain rfl := Option.some.inj (Option.ite_none_right_eq_some.mp faulty).2
  exact ⟨nofun, nofun⟩

theorem process_of_lt (start : Nat)
    (small : description.imageSize.toNat < description.argumentBytes) :
    description.process start = .error (.process description.id
      (.argumentsTooLarge ⟨description.argumentBytes, description.imageSize.toNat⟩)) := by
  rw [ProcessDescription.process, Process.withArguments, Process.blank, Arguments.layOut]
  simp only [argumentBytes_eq, List.length_replicate, if_pos small]

theorem exists_process_of_le (start : Nat)
    (fits : description.argumentBytes ≤ description.imageSize.toNat) :
    ∃ process, description.process start = .ok process := by
  rw [ProcessDescription.process, Process.withArguments, Process.blank, Arguments.layOut]
  simp only [argumentBytes_eq, List.length_replicate, if_neg (Nat.not_lt.mpr fits)]
  exact ⟨_, rfl⟩

/-- Attaching a known terminal to a process that is in a slot is never refused. -/
theorem connect_eq (description : ProcessDescription) {slot : Nat} {tables : Tables}
    (taken : slot < tables.processes.size) :
    ∃ after, description.connect slot tables =
      match description.unknownTerminal? tables.terminals.size with
      | some fault => .error fault
      | none => .ok after := by
  rw [connect, unknownTerminal?]
  cases description.terminal with
  | none => exact ⟨_, rfl⟩
  | some unit =>
    by_cases known : unit.toNat < tables.terminals.size
    · simp only [Option.bind_some, Tables.attach, if_neg (Nat.not_le.mpr known),
        if_neg (Nat.not_le.mpr taken)]
      exact ⟨_, rfl⟩
    · refine ⟨tables, ?_⟩
      simp only [Option.bind_some, if_pos (Nat.le_of_not_lt known)]

end ProcessDescription

/-! ### One process after the other -/

namespace Tables

variable {tables : Tables}

theorem exists_addProcess (room : tables.processes.size < AddressMap.processSlots)
    (process : Process) :
    ∃ after, tables.addProcess process = (.ok tables.processes.size, after) := by
  obtain ⟨processes, added⟩ := Table.exists_add? room process
  exact ⟨_, by rw [addProcess, added]⟩

theorem exists_addTerminal (room : tables.terminals.size < AddressMap.terminalSlots)
    (terminal : Terminal) :
    ∃ after, tables.addTerminal terminal = (.ok tables.terminals.size, after) := by
  obtain ⟨terminals, added⟩ := Table.exists_add? room terminal
  exact ⟨_, by rw [addTerminal, added]⟩

end Tables

namespace Description

/-- While there are free slots, adding a process fails with the fault of the process and with no
other, and where the process has none it is added. -/
theorem addProcess_eq (description : ProcessDescription) (start : Nat) {tables : Tables}
    (room : tables.processes.size < AddressMap.processSlots) :
    ∃ after, addProcess (start, tables) description =
      match description.fault? tables.terminals.size (start + description.clicks) with
      | some fault => .error fault
      | none => .ok (start + description.clicks, after) := by
  rw [ProcessDescription.fault?]
  -- One case for each check, in the order in which they are made.
  by_cases wide : 65535 < description.clicks
  · have refused : description.checkSize start = .error _ := if_pos wide
    exact ⟨tables, by rw [if_pos wide, addProcess, refused]; rfl⟩
  rw [if_neg wide]
  by_cases exhausted : 65535 < start + description.clicks
  · have refused : description.checkSize start = .error _ :=
      (if_neg wide).trans (if_pos exhausted)
    exact ⟨tables, by rw [if_pos exhausted, addProcess, refused]; rfl⟩
  rw [if_neg exhausted]
  have passed : description.checkSize start = .ok () := (if_neg wide).trans (if_neg exhausted)
  by_cases small : description.imageSize.toNat < description.argumentBytes
  · have refused := ProcessDescription.process_of_lt start small
    exact ⟨tables, by rw [if_pos small, addProcess, passed, refused]; rfl⟩
  rw [if_neg small]
  obtain ⟨process, made⟩ :=
    ProcessDescription.exists_process_of_le start (Nat.le_of_not_lt small)
  obtain ⟨placed, added⟩ := Tables.exists_addProcess room process
  obtain ⟨-, sameTerminals, entries⟩ := Tables.eq_of_addProcess added
  have taken : tables.processes.size < placed.processes.size := by
    rw [Table.size_of_entries_append entries]
    exact Nat.lt_succ_self _
  obtain ⟨after, connects⟩ := description.connect_eq taken
  rw [sameTerminals] at connects
  refine ⟨after, ?_⟩
  have bound : addProcess (start, tables) description =
      description.connect tables.processes.size placed >>= fun after =>
        pure (start + description.clicks, after) := by
    simp only [addProcess, passed, made, bind, Except.bind, added]
  rw [bound, connects]
  cases description.unknownTerminal? tables.terminals.size <;> rfl

theorem addProcess_of_sound {description : ProcessDescription} {start : Nat} {tables : Tables}
    (room : tables.processes.size < AddressMap.processSlots)
    (sound : description.fault? tables.terminals.size (start + description.clicks) = none) :
    ∃ after, addProcess (start, tables) description = .ok (start + description.clicks, after) ∧
      after.terminals = tables.terminals ∧
      after.processes.size = tables.processes.size + 1 := by
  obtain ⟨after, added⟩ := addProcess_eq description start room
  rw [sound] at added
  obtain ⟨-, sameTerminals, process, -, entries⟩ := eq_of_addProcess added
  exact ⟨after, added, sameTerminals, Table.size_of_entries_append entries⟩

/-- The fault of the process at a place in a list of processes whose images lie one after the
other from a click on. -/
def faultAt? (terminals start : Nat) (processes : List ProcessDescription) (place : Nat) :
    Option BuildFault :=
  processes[place]?.bind fun process =>
    process.fault? terminals
      (start + ((processes.take (place + 1)).map ProcessDescription.clicks).sum)

section Runs

variable {terminals start : Nat} {process : ProcessDescription}
  {processes : List ProcessDescription} {tables : Tables}

theorem faultAt?_zero : faultAt? terminals start (process :: processes) 0 =
    process.fault? terminals (start + process.clicks) :=
  rfl

/-- The images after the first one lie from the top of the first one on. -/
theorem faultAt?_succ (place : Nat) :
    faultAt? terminals start (process :: processes) (place + 1) =
      faultAt? terminals (start + process.clicks) processes place := by
  rw [faultAt?, faultAt?, List.getElem?_cons_succ, List.take_succ_cons, List.map_cons,
    List.sum_cons, ← Nat.add_assoc]

/-- Processes of which none has a fault are all added. -/
theorem exists_addProcesses
    (room : tables.processes.size + processes.length ≤ AddressMap.processSlots)
    (sound : ∀ place, faultAt? tables.terminals.size start processes place = none) :
    ∃ after, processes.foldlM addProcess (start, tables) = .ok after := by
  induction processes generalizing start tables with
  | nil => exact ⟨_, rfl⟩
  | cons process rest inductionHypothesis =>
    rw [List.length_cons] at room
    have free : tables.processes.size < AddressMap.processSlots := by omega
    obtain ⟨between, added, sameTerminals, size⟩ :=
      addProcess_of_sound free (faultAt?_zero ▸ sound 0)
    -- The faults of the others depend on the tables by the number of terminals alone, and no
    -- process changes that.
    have later : ∀ place,
        faultAt? between.terminals.size (start + process.clicks) rest place = none := by
      intro place
      rw [sameTerminals, ← faultAt?_succ]
      exact sound (place + 1)
    obtain ⟨after, others⟩ := inductionHypothesis (by omega) later
    exact ⟨after, by rw [List.foldlM_cons, added]; exact others⟩

/-- Adding processes fails with the fault of the first one that has a fault. -/
theorem addProcesses_of_first_fault {place : Nat} {fault : BuildFault}
    (room : tables.processes.size + processes.length ≤ AddressMap.processSlots)
    (faulty : faultAt? tables.terminals.size start processes place = some fault)
    (first : ∀ earlier < place, faultAt? tables.terminals.size start processes earlier = none) :
    processes.foldlM addProcess (start, tables) = .error fault := by
  induction processes generalizing start tables place with
  | nil => cases faulty
  | cons process rest inductionHypothesis =>
    rw [List.length_cons] at room
    have free : tables.processes.size < AddressMap.processSlots := by omega
    rw [List.foldlM_cons]
    cases place with
    | zero =>
      obtain ⟨_, refused⟩ := addProcess_eq process start free
      rw [faultAt?_zero] at faulty
      rw [refused, faulty]
      rfl
    | succ place =>
      obtain ⟨between, added, sameTerminals, size⟩ :=
        addProcess_of_sound free (faultAt?_zero ▸ first 0 (Nat.succ_pos place))
      rw [added]
      rw [faultAt?_succ, ← sameTerminals] at faulty
      refine inductionHypothesis (by omega) faulty ?_
      intro earlier before
      rw [sameTerminals, ← faultAt?_succ]
      exact first _ (Nat.succ_lt_succ before)

end Runs

/-! ### Whole descriptions -/

/-- Terminals are all added while there are units for them. -/
theorem exists_addTerminals {described : List (TerminalDescription × Nat)} {tables : Tables}
    (room : tables.terminals.size + described.length ≤ AddressMap.terminalSlots) :
    ∃ after, described.foldlM
      (fun tables (description, unit) => addTerminal tables unit description) tables =
        .ok after := by
  induction described generalizing tables with
  | nil => exact ⟨_, rfl⟩
  | cons first rest inductionHypothesis =>
    obtain ⟨description, unit⟩ := first
    rw [List.length_cons] at room
    have free : tables.terminals.size < AddressMap.terminalSlots := by omega
    obtain ⟨between, added⟩ := Tables.exists_addTerminal free (description.terminal unit)
    have size := Table.size_of_entries_append (Tables.eq_of_addTerminal added).2
    have room : between.terminals.size + rest.length ≤ AddressMap.terminalSlots := by omega
    obtain ⟨after, others⟩ := inductionHypothesis room
    refine ⟨after, ?_⟩
    rw [List.foldlM_cons]
    simp only [addTerminal, added]
    exact others

/-- The fault of a described process. -/
def fault? (description : Description) (place : Nat) : Option BuildFault :=
  faultAt? description.terminals.length 512 description.processes place

/-- Where the counts are in range, building comes down to adding the processes. -/
theorem build_eq {description : Description}
    (terminals : description.terminals.length ≤ AddressMap.terminalSlots)
    (processes : description.processes.length ≤ AddressMap.processSlots) :
    ∃ tables : Tables, tables.terminals.size = description.terminals.length ∧
      tables.processes.size = 0 ∧
      description.build =
        (description.processes.foldlM addProcess (firstClick, tables)).map Prod.snd := by
  have room : Tables.empty.terminals.size + description.terminals.zipIdx.length ≤
      AddressMap.terminalSlots := by
    rw [List.length_zipIdx]
    show 0 + description.terminals.length ≤ AddressMap.terminalSlots
    rwa [Nat.zero_add]
  obtain ⟨tables, added⟩ := exists_addTerminals room
  obtain ⟨noProcesses, entries⟩ := eq_of_addTerminals added
  refine ⟨tables, ?_, ?_, ?_⟩
  · rw [Table.size, entries, List.length_append, List.length_map, List.length_zipIdx]
    exact Nat.zero_add _
  · rw [noProcesses]
    rfl
  · have terminalsAdded : addTerminals .empty description.terminals = .ok tables := added
    simp only [build, if_neg (Nat.not_lt.mpr terminals), if_neg (Nat.not_lt.mpr processes),
      terminalsAdded, bind, Except.bind]
    cases description.processes.foldlM addProcess (firstClick, tables) <;> rfl

section Faults

variable {description : Description}

theorem build_of_many_terminals (many : AddressMap.terminalSlots < description.terminals.length) :
    description.build = .error (.tooManyTerminals description.terminals.length) := by
  simp only [build, if_pos many]
  rfl

theorem build_of_many_processes
    (terminals : description.terminals.length ≤ AddressMap.terminalSlots)
    (many : AddressMap.processSlots < description.processes.length) :
    description.build = .error (.tooManyProcesses description.processes.length) := by
  simp only [build, if_neg (Nat.not_lt.mpr terminals), if_pos many]
  rfl

theorem build_of_sound
    (terminals : description.terminals.length ≤ AddressMap.terminalSlots)
    (processes : description.processes.length ≤ AddressMap.processSlots)
    (sound : ∀ place, description.fault? place = none) :
    ∃ tables, description.build = .ok tables := by
  obtain ⟨tables, size, noProcesses, built⟩ := build_eq terminals processes
  unfold fault? at sound
  rw [← size] at sound
  obtain ⟨⟨_, after⟩, added⟩ := exists_addProcesses (by omega) sound
  exact ⟨after, built.trans (congrArg (Except.map Prod.snd) added)⟩

theorem build_of_first_fault {place : Nat} {fault : BuildFault}
    (terminals : description.terminals.length ≤ AddressMap.terminalSlots)
    (processes : description.processes.length ≤ AddressMap.processSlots)
    (faulty : description.fault? place = some fault)
    (first : ∀ earlier < place, description.fault? earlier = none) :
    description.build = .error fault := by
  obtain ⟨tables, size, noProcesses, built⟩ := build_eq terminals processes
  unfold fault? at faulty first
  rw [← size] at faulty first
  have refused := addProcesses_of_first_fault (by omega) faulty first
  exact built.trans (congrArg (Except.map Prod.snd) refused)

/-- Where some process has a fault, there is a first one that has. -/
theorem sound_or_exists_first_fault (description : Description) :
    (∀ place, description.fault? place = none) ∨
    ∃ place fault, description.fault? place = some fault ∧
      ∀ earlier < place, description.fault? earlier = none := by
  by_cases sound : ∀ place, description.fault? place = none
  · exact .inl sound
  · have faulty : ∃ place, description.fault? place ≠ none := not_forall.mp sound
    obtain ⟨fault, found⟩ := Option.ne_none_iff_exists'.mp (Nat.find_spec faulty)
    exact .inr ⟨_, fault, found, fun earlier before => not_not.mp (Nat.find_min faulty before)⟩

theorem exists_build_iff (description : Description) :
    (∃ tables, description.build = .ok tables) ↔
      description.terminals.length ≤ AddressMap.terminalSlots ∧
      description.processes.length ≤ AddressMap.processSlots ∧
      ∀ place, description.fault? place = none := by
  constructor
  · rintro ⟨tables, built⟩
    have terminals : description.terminals.length ≤ AddressMap.terminalSlots := by
      by_contra many
      rw [build_of_many_terminals (Nat.lt_of_not_le many)] at built
      cases built
    have processes : description.processes.length ≤ AddressMap.processSlots := by
      by_contra many
      rw [build_of_many_processes terminals (Nat.lt_of_not_le many)] at built
      cases built
    refine ⟨terminals, processes, ?_⟩
    rcases sound_or_exists_first_fault description with sound | ⟨_, _, faulty, first⟩
    · exact sound
    · rw [build_of_first_fault terminals processes faulty first] at built
      cases built
  · rintro ⟨terminals, processes, sound⟩
    exact build_of_sound terminals processes sound

theorem build_eq_error_iff {fault : BuildFault}
    (terminals : description.terminals.length ≤ AddressMap.terminalSlots)
    (processes : description.processes.length ≤ AddressMap.processSlots) :
    description.build = .error fault ↔
      ∃ place, description.fault? place = some fault ∧
        ∀ earlier < place, description.fault? earlier = none := by
  constructor
  · intro failed
    rcases sound_or_exists_first_fault description with sound | ⟨place, found, faulty, first⟩
    · obtain ⟨tables, built⟩ := build_of_sound terminals processes sound
      rw [built] at failed
      cases failed
    · rw [build_of_first_fault terminals processes faulty first] at failed
      obtain rfl := Except.error.inj failed
      exact ⟨place, faulty, first⟩
  · rintro ⟨place, faulty, first⟩
    exact build_of_first_fault terminals processes faulty first

theorem argumentsTooLarge_of_build {fault : BuildFault}
    (failed : description.build = .error fault) :
    (∀ cause, fault ≠ .tables cause) ∧
    ∀ id cause, fault = .process id cause → ∃ tooLarge, cause = .argumentsTooLarge tooLarge := by
  by_cases terminals : description.terminals.length ≤ AddressMap.terminalSlots
  · by_cases processes : description.processes.length ≤ AddressMap.processSlots
    · obtain ⟨place, faulty, -⟩ := (build_eq_error_iff terminals processes).mp failed
      obtain ⟨process, -, faulty⟩ := Option.bind_eq_some_iff.mp faulty
      exact process.argumentsTooLarge_of_fault? faulty
    · rw [build_of_many_processes terminals (Nat.lt_of_not_le processes)] at failed
      obtain rfl := Except.error.inj failed
      exact ⟨nofun, nofun⟩
  · rw [build_of_many_terminals (Nat.lt_of_not_le terminals)] at failed
    obtain rfl := Except.error.inj failed
    exact ⟨nofun, nofun⟩

end Faults

/-- Building accepts exactly the valid descriptions, and of any other it names the first fault: too
many terminals, then too many processes, then the first fault of the first process that has one.
An image takes up the least number of clicks that hold it, so that it is too large above 4194240
bytes. The tables refuse nothing but arguments. -/
theorem build_names_first_fault (description : Description) :
    let terminals := description.terminals.length
    let processes := description.processes.length
    (9 < terminals → description.build = .error (.tooManyTerminals terminals)) ∧
    (terminals ≤ 9 → 50 < processes →
      description.build = .error (.tooManyProcesses processes)) ∧
    (terminals ≤ 9 → processes ≤ 50 → ∀ fault,
      description.build = .error fault ↔
        ∃ place, description.fault? place = some fault ∧
          ∀ earlier < place, description.fault? earlier = none) ∧
    ((∃ tables, description.build = .ok tables) ↔
      terminals ≤ 9 ∧ processes ≤ 50 ∧ ∀ place, description.fault? place = none) ∧
    (∀ process : ProcessDescription,
      (∀ limit, process.clicks ≤ limit ↔ process.imageSize.toNat ≤ 64 * limit) ∧
      (65535 < process.clicks ↔ 4194240 < process.imageSize.toNat)) ∧
    ∀ fault, description.build = .error fault →
      (∀ cause, fault ≠ .tables cause) ∧
      ∀ id cause, fault = .process id cause →
        ∃ tooLarge, cause = .argumentsTooLarge tooLarge := by
  intro terminals processes
  refine ⟨build_of_many_terminals, build_of_many_processes,
    fun few few' _ => build_eq_error_iff few few', exists_build_iff description,
    fun process => ⟨process.clicks_le_iff, ?_⟩, fun _ => argumentsTooLarge_of_build⟩
  rw [← Nat.not_le, process.clicks_le_iff, Nat.not_le]

/-- An image may end at the top of core, and then there is no room for another. -/
example :
    let description : Description :=
      { processes :=
          [{ id := 1, imageSize := 4161472 }, { id := 2, imageSize := 1, terminal := some 0 }] }
    description.fault? 0 = none ∧ description.fault? 1 = some (.coreExhausted 2) := by
  decide

end Description

end SixthEdition
