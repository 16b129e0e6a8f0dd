/-
This file proves what a system looks like that has been built from its
description. The processes lie in the slots in the order in which they are
described, and each image starts at the click where the one before it ends. The
checks on the way say nothing more of a system that has passed them than that
all images end in core and that every terminal that is asked for exists.
-/

import SixthEdition.Description.Build

namespace SixthEdition

theorem BuildFault.ok_of_bind {First Second : Type} {first : Except BuildFault First}
    {next : First → Except BuildFault Second} {result : Second}
    (done : (first >>= next) = .ok result) :
    ∃ value, first = .ok value ∧ next value = .ok result := by
  cases first with
  | error fault => cases done
  | ok value => exact ⟨value, rfl, done⟩

/-! ### The tables -/

namespace Tables

variable {tables after : Tables} {slot unit : Nat}

theorem eq_of_addProcess {process : Process}
    (added : tables.addProcess process = (.ok slot, after)) :
    slot = tables.processes.size ∧ after.terminals = tables.terminals ∧
      after.processes.entries = tables.processes.entries ++ [process] := by
  unfold addProcess at added
  cases room : tables.processes.add? process with
  | none =>
    rw [room] at added
    cases added
  | some found =>
    obtain ⟨place, processes⟩ := found
    rw [room] at added
    cases added
    obtain ⟨here, entries⟩ := Table.entries_of_add? room
    exact ⟨here, rfl, entries⟩

theorem eq_of_addTerminal {terminal : Terminal}
    (added : tables.addTerminal terminal = (.ok unit, after)) :
    after.processes = tables.processes ∧
      after.terminals.entries = tables.terminals.entries ++ [terminal] := by
  unfold addTerminal at added
  cases room : tables.terminals.add? terminal with
  | none =>
    rw [room] at added
    cases added
  | some found =>
    obtain ⟨place, terminals⟩ := found
    rw [room] at added
    cases added
    exact ⟨rfl, (Table.entries_of_add? room).2⟩

theorem eq_of_attach (attached : tables.attach slot unit = (.ok (), after)) :
    after = tables.modifyProcess slot fun process =>
      { process with record.terminal := UInt16.ofNat (AddressMap.terminal unit) } := by
  unfold attach at attached
  split at attached
  · cases attached
  · split at attached
    · cases attached
    · exact (congrArg Prod.snd attached).symm

/-- Changing the last process leaves all before it as they are. -/
theorem entries_modifyProcess_last {others : List Process} {process : Process}
    (last : tables.processes.entries = others ++ [process]) (change : Process → Process) :
    (tables.modifyProcess others.length change).processes.entries = others ++ [change process] := by
  rw [modifyProcess, Table.entries_modify, last, List.modify_eq_take_drop, List.take_left,
    List.drop_left]
  rfl

end Tables

namespace ProcessDescription

/-! ### One process -/

/-- A process is as described, in a system with some number of terminals and with its image
starting at a click. -/
structure Describes (description : ProcessDescription) (terminals start : Nat)
    (process : Process) : Prop where
  inCore : start + description.clicks ≤ Description.clickLimit
  known : ∀ unit, description.terminal = some unit → unit.toNat < terminals
  record_eq : process.record =
    { description.record start with
      terminal := (description.terminal.map fun unit =>
        UInt16.ofNat (AddressMap.terminal unit.toNat)).getD 0 }
  image_eq : Arguments.layOut (description.arguments.map Bytes.ofText)
    (List.replicate description.imageSize.toNat 0) = .ok process.image

variable {description : ProcessDescription} {start : Nat}

section Describes

variable {terminals : Nat} {process : Process}
  (describes : description.Describes terminals start process)

include describes

theorem Describes.status_eq : process.record.status = description.status.number := by
  rw [describes.record_eq]
  rfl

theorem Describes.id_eq : process.record.id = description.id := by
  rw [describes.record_eq]
  rfl

end Describes

theorem le_of_checkSize (passed : description.checkSize start = .ok ()) :
    start + description.clicks ≤ Description.clickLimit := by
  unfold checkSize at passed
  split at passed
  · cases passed
  · split at passed
    · cases passed
    · omega

theorem eq_of_process {process : Process} (made : description.process start = .ok process) :
    process.record = description.record start ∧
    Arguments.layOut (description.arguments.map Bytes.ofText)
      (List.replicate description.imageSize.toNat 0) = .ok process.image := by
  unfold ProcessDescription.process Process.withArguments Process.blank at made
  cases laidOut : Arguments.layOut (description.arguments.map Bytes.ofText)
      (List.replicate description.imageSize.toNat 0) with
  | error fault =>
    rw [laidOut] at made
    cases made
  | ok image =>
    rw [laidOut] at made
    obtain rfl := Except.ok.inj made
    exact ⟨rfl, rfl⟩

/-- Connecting the process in the last slot changes its terminal and nothing else. -/
theorem eq_of_connect {tables after : Tables} {others : List Process} {process : Process}
    (last : tables.processes.entries = others ++ [process])
    (connected : description.connect others.length tables = .ok after) :
    (∀ unit, description.terminal = some unit → unit.toNat < tables.terminals.size) ∧
    after.terminals = tables.terminals ∧
    after.processes.entries = others ++
      [{ process with record.terminal := (description.terminal.map fun unit =>
          UInt16.ofNat (AddressMap.terminal unit.toNat)).getD process.record.terminal }] := by
  unfold connect at connected
  cases asked : description.terminal with
  | none =>
    rw [asked] at connected
    obtain rfl := Except.ok.inj connected
    exact ⟨nofun, rfl, last⟩
  | some unit =>
    rw [asked] at connected
    simp only at connected
    split at connected
    · cases connected
    case isFalse known =>
      rcases attached : tables.attach others.length unit.toNat with ⟨cause | _, changed⟩
      · rw [attached] at connected
        cases connected
      · rw [attached] at connected
        obtain rfl := Except.ok.inj connected
        obtain rfl := Tables.eq_of_attach attached
        refine ⟨?_, rfl, Tables.entries_modifyProcess_last last _⟩
        intro other same
        obtain rfl := Option.some.inj same
        exact Nat.lt_of_not_le known

end ProcessDescription

/-! ### Systems -/

namespace Description

/-- Processes are as described, one after the other, with their images from a click on. -/
inductive Laid (terminals : Nat) : Nat → List ProcessDescription → List Process → Prop where
  | nil (start : Nat) : Laid terminals start [] []
  | cons {start : Nat} {description : ProcessDescription} {process : Process}
      {descriptions : List ProcessDescription} {processes : List Process}
      (first : description.Describes terminals start process)
      (rest : Laid terminals (start + description.clicks) descriptions processes) :
      Laid terminals start (description :: descriptions) (process :: processes)

namespace Laid

variable {terminals start : Nat} {descriptions : List ProcessDescription}
  {processes : List Process}

theorem length_eq (laid : Laid terminals start descriptions processes) :
    processes.length = descriptions.length := by
  induction laid with
  | nil => rfl
  | cons first rest inductionHypothesis =>
    rw [List.length_cons, List.length_cons, inductionHypothesis]

/-- A described process is in the slot of its description. -/
theorem exists_process (laid : Laid terminals start descriptions processes) {slot : Nat}
    {description : ProcessDescription} (described : descriptions[slot]? = some description) :
    ∃ process click, processes[slot]? = some process ∧
      description.Describes terminals click process := by
  induction laid generalizing slot with
  | nil => cases described
  | cons first rest inductionHypothesis =>
    cases slot with
    | zero =>
      obtain rfl := Option.some.inj described
      exact ⟨_, _, rfl, first⟩
    | succ slot => exact inductionHypothesis described

/-- Each process is the one of some description. -/
theorem exists_description (laid : Laid terminals start descriptions processes)
    {process : Process} (member : process ∈ processes) :
    ∃ description ∈ descriptions, ∃ click, description.Describes terminals click process := by
  induction laid with
  | nil => cases member
  | cons first rest inductionHypothesis =>
    rcases List.mem_cons.mp member with rfl | later
    · exact ⟨_, List.mem_cons_self, _, first⟩
    · obtain ⟨description, there, click, describes⟩ := inductionHypothesis later
      exact ⟨description, List.mem_cons_of_mem _ there, click, describes⟩

end Laid

theorem eq_of_addProcess {description : ProcessDescription} {start next : Nat}
    {tables after : Tables}
    (added : addProcess (start, tables) description = .ok (next, after)) :
    next = start + description.clicks ∧ after.terminals = tables.terminals ∧
      ∃ process, description.Describes tables.terminals.size start process ∧
        after.processes.entries = tables.processes.entries ++ [process] := by
  unfold addProcess at added
  obtain ⟨_, passed, added⟩ := BuildFault.ok_of_bind added
  obtain ⟨process, made, added⟩ := BuildFault.ok_of_bind added
  obtain ⟨recordEq, imageEq⟩ := ProcessDescription.eq_of_process made
  rcases placed : tables.addProcess process with ⟨cause | slot, placedTables⟩
  · rw [placed] at added
    cases added
  · rw [placed] at added
    obtain ⟨connected, connects, added⟩ := BuildFault.ok_of_bind added
    obtain ⟨rfl, rfl⟩ := Prod.mk.inj (Except.ok.inj added)
    obtain ⟨rfl, sameTerminals, last⟩ := Tables.eq_of_addProcess placed
    obtain ⟨known, unchanged, entries⟩ := ProcessDescription.eq_of_connect last connects
    rw [sameTerminals] at known unchanged
    refine ⟨rfl, unchanged, _, ⟨ProcessDescription.le_of_checkSize passed, known, ?_, ?_⟩, entries⟩
    · simp only [recordEq]
      rfl
    · exact imageEq

theorem laid_of_addProcesses {descriptions : List ProcessDescription} {start next : Nat}
    {tables after : Tables}
    (added : descriptions.foldlM addProcess (start, tables) = .ok (next, after)) :
    after.terminals = tables.terminals ∧
      ∃ processes, Laid tables.terminals.size start descriptions processes ∧
        after.processes.entries = tables.processes.entries ++ processes := by
  induction descriptions generalizing start tables with
  | nil =>
    obtain ⟨rfl, rfl⟩ := Prod.mk.inj (Except.ok.inj added)
    exact ⟨rfl, [], .nil _, (List.append_nil _).symm⟩
  | cons description rest inductionHypothesis =>
    rw [List.foldlM_cons] at added
    obtain ⟨⟨middle, between⟩, first, others⟩ := BuildFault.ok_of_bind added
    obtain ⟨rfl, sameTerminals, process, describes, entries⟩ := eq_of_addProcess first
    obtain ⟨unchanged, processes, laid, all⟩ := inductionHypothesis others
    rw [sameTerminals] at unchanged laid
    refine ⟨unchanged, process :: processes, .cons describes laid, ?_⟩
    rw [all, entries, List.append_assoc, List.singleton_append]

theorem eq_of_addTerminals {described : List (TerminalDescription × Nat)} {tables after : Tables}
    (added : described.foldlM
      (fun tables (description, unit) => addTerminal tables unit description) tables =
        .ok after) :
    after.processes = tables.processes ∧
      after.terminals.entries = tables.terminals.entries ++
        described.map fun (description, unit) => description.terminal unit := by
  induction described generalizing tables with
  | nil =>
    obtain rfl := Except.ok.inj added
    exact ⟨rfl, (List.append_nil _).symm⟩
  | cons first rest inductionHypothesis =>
    obtain ⟨description, unit⟩ := first
    rw [List.foldlM_cons] at added
    obtain ⟨between, placed, others⟩ := BuildFault.ok_of_bind added
    obtain ⟨sameProcesses, entries⟩ := inductionHypothesis others
    simp only [addTerminal] at placed
    rcases room : tables.addTerminal (description.terminal unit) with ⟨cause | place, grown⟩
    · rw [room] at placed
      cases placed
    · rw [room] at placed
      obtain rfl := Except.ok.inj placed
      obtain ⟨unchanged, last⟩ := Tables.eq_of_addTerminal room
      refine ⟨sameProcesses.trans unchanged, ?_⟩
      rw [entries, last, List.append_assoc, List.map_cons, List.singleton_append]

/-- A system that has been built has the terminals that are described, in their order, and the
processes are as described, from the first click on. -/
theorem laid_of_build {description : Description} {tables : Tables}
    (built : description.build = .ok tables) :
    tables.terminals.entries =
        (description.terminals.zipIdx.map fun (terminal, unit) => terminal.terminal unit) ∧
      Laid description.terminals.length firstClick description.processes
        tables.processes.entries := by
  simp only [build] at built
  split at built
  · cases built
  · split at built
    · cases built
    · obtain ⟨terminals, terminalsAdded, built⟩ := BuildFault.ok_of_bind built
      obtain ⟨⟨_, last⟩, processesAdded, built⟩ := BuildFault.ok_of_bind built
      obtain rfl := Except.ok.inj built
      obtain ⟨noProcesses, entries⟩ := eq_of_addTerminals terminalsAdded
      obtain ⟨unchanged, processes, laid, all⟩ := laid_of_addProcesses processesAdded
      have none : terminals.processes.entries = [] := by rw [noProcesses]; rfl
      have count : terminals.terminals.size = description.terminals.length := by
        rw [Table.size, entries]
        simp only [Tables.empty, Table.entries_empty, List.nil_append, List.length_map,
          List.length_zipIdx]
      rw [none, List.nil_append] at all
      rw [count] at laid
      rw [unchanged, entries, all]
      exact ⟨rfl, laid⟩

end Description

end SixthEdition
