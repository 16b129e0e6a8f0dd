/-
This file proves what the tables hold after any run of calls that add entries
and attach terminals. An entry never leaves the place at which it was added. All
that can still happen to it is that a terminal is attached to it, so that the
tables can be told from the trace of the run: the entries that were offered
while there was room, each process with the terminal of the last attachment to
it that went well.

An attachment that goes well names a terminal that exists, and terminals stay.
The address that it stores is therefore, for the rest of the run, one that a
lister can follow.
-/

import SixthEdition.Proofs.BuildFaults
import SixthEdition.Proofs.ProcessWalk

namespace SixthEdition

/-- The process when a terminal, if any, is its controlling terminal. -/
def Process.attachedTo (process : Process) (unit? : Option Nat) : Process :=
  match unit? with
  | none => process
  | some unit => { process with record.terminal := UInt16.ofNat (1024 + 32 * unit) }

/-- Only the last terminal counts. -/
theorem Process.attachedTo_attachedTo (process : Process) (earlier : Option Nat) (unit : Nat) :
    (process.attachedTo earlier).attachedTo (some unit) = process.attachedTo (some unit) := by
  cases earlier <;> rfl

namespace Tables

/-! ### Calls and runs -/

inductive Call where
  | addProcess (process : Process)
  | addTerminal (terminal : Terminal)
  | attach (slot unit : Nat)

inductive Answer where
  /-- The place of the entry in its table. -/
  | added (place : Nat)
  | attached
  | failed (cause : TablesFault)
  deriving DecidableEq

/-- The answer that a result makes, given the one to a value. -/
def Answer.ofResult {Value : Type} (given : Value → Answer) : Except TablesFault Value → Answer
  | .ok value => given value
  | .error cause => .failed cause

/-- Makes a call. The tables are the ones that it leaves, whether it fails or not. -/
def perform (call : Call) (tables : Tables) : Answer × Tables :=
  match call with
  | .addProcess process => (tables.addProcess process).map (.ofResult .added) id
  | .addTerminal terminal => (tables.addTerminal terminal).map (.ofResult .added) id
  | .attach slot unit => (tables.attach slot unit).map (.ofResult fun _ => .attached) id

/-- Makes calls in order, and keeps each of them with its answer. -/
def run : List Call → Tables → List (Call × Answer) × Tables
  | [], tables => ([], tables)
  | call :: rest, tables =>
    let (answer, after) := tables.perform call
    let (trace, final) := run rest after
    ((call, answer) :: trace, final)

theorem run_cons (call : Call) (rest : List Call) (tables : Tables) :
    run (call :: rest) tables =
      ((call, (tables.perform call).1) :: (run rest (tables.perform call).2).1,
        (run rest (tables.perform call).2).2) :=
  rfl

theorem run_append (first second : List Call) (tables : Tables) :
    run (first ++ second) tables =
      ((run first tables).1 ++ (run second (run first tables).2).1,
        (run second (run first tables).2).2) := by
  induction first generalizing tables with
  | nil => rfl
  | cons call rest inductionHypothesis =>
    rw [List.cons_append, run_cons, run_cons, inductionHypothesis, List.cons_append]

theorem map_fst_run (calls : List Call) (tables : Tables) :
    (run calls tables).1.map Prod.fst = calls := by
  induction calls generalizing tables with
  | nil => rfl
  | cons call rest inductionHypothesis =>
    rw [run_cons, List.map_cons, inductionHypothesis]

/-! ### One call -/

theorem addProcess_of_full {tables : Tables} (full : tables.processes.size = 50)
    (process : Process) : tables.addProcess process = (.error .processTableFull, tables) := by
  rw [addProcess, (Table.add?_eq_none_iff _ _).mpr full]

theorem addTerminal_of_full {tables : Tables} (full : tables.terminals.size = 9)
    (terminal : Terminal) : tables.addTerminal terminal = (.error .terminalTableFull, tables) := by
  rw [addTerminal, (Table.add?_eq_none_iff _ _).mpr full]

/-- All that a call can do to the tables, and what it answers. -/
inductive Step (before : Tables) : Call → Answer → Tables → Prop where
  | addProcess {process : Process} {after : Tables} (room : before.processes.size < 50)
      (terminals_eq : after.terminals = before.terminals)
      (entries_eq : after.processes.entries = before.processes.entries ++ [process]) :
      Step before (.addProcess process) (.added before.processes.size) after
  | processesFull (process : Process) (full : before.processes.size = 50) :
      Step before (.addProcess process) (.failed .processTableFull) before
  | addTerminal {terminal : Terminal} {after : Tables} (room : before.terminals.size < 9)
      (processes_eq : after.processes = before.processes)
      (entries_eq : after.terminals.entries = before.terminals.entries ++ [terminal]) :
      Step before (.addTerminal terminal) (.added before.terminals.size) after
  | terminalsFull (terminal : Terminal) (full : before.terminals.size = 9) :
      Step before (.addTerminal terminal) (.failed .terminalTableFull) before
  | attach {slot unit : Nat} (known : unit < before.terminals.size)
      (taken : slot < before.processes.size) :
      Step before (.attach slot unit) .attached
        (before.modifyProcess slot (·.attachedTo (some unit)))
  | noTerminal {slot unit : Nat} (unknown : before.terminals.size ≤ unit) :
      Step before (.attach slot unit) (.failed (.noSuchTerminal unit)) before
  | noProcess {slot unit : Nat} (known : unit < before.terminals.size)
      (free : before.processes.size ≤ slot) :
      Step before (.attach slot unit) (.failed (.noSuchProcess slot)) before

theorem step_perform (call : Call) (tables : Tables) :
    Step tables call (tables.perform call).1 (tables.perform call).2 := by
  cases call with
  | addProcess process =>
    rcases Nat.lt_or_eq_of_le tables.processes.fits with room | full
    · obtain ⟨after, added⟩ := exists_addProcess room process
      obtain ⟨-, terminals, entries⟩ := eq_of_addProcess added
      rw [perform, added]
      exact .addProcess room terminals entries
    · rw [perform, addProcess_of_full full]
      exact .processesFull process full
  | addTerminal terminal =>
    rcases Nat.lt_or_eq_of_le tables.terminals.fits with room | full
    · obtain ⟨after, added⟩ := exists_addTerminal room terminal
      obtain ⟨processes, entries⟩ := eq_of_addTerminal added
      rw [perform, added]
      exact .addTerminal room processes entries
    · rw [perform, addTerminal_of_full full]
      exact .terminalsFull terminal full
  | attach slot unit =>
    rw [perform, attach]
    by_cases unknown : tables.terminals.size ≤ unit
    · simp only [if_pos unknown]
      exact .noTerminal unknown
    by_cases free : tables.processes.size ≤ slot
    · simp only [if_neg unknown, if_pos free]
      exact .noProcess (Nat.lt_of_not_le unknown) free
    simp only [if_neg unknown, if_neg free]
    exact .attach (Nat.lt_of_not_le unknown) (Nat.lt_of_not_le free)

/-- The answer that is due to a call when the tables have so many processes and terminals. -/
def dueAnswer (processes terminals : Nat) : Call → Answer
  | .addProcess _ => if processes < 50 then .added processes else .failed .processTableFull
  | .addTerminal _ => if terminals < 9 then .added terminals else .failed .terminalTableFull
  | .attach slot unit =>
    if terminals ≤ unit then .failed (.noSuchTerminal unit)
    else if processes ≤ slot then .failed (.noSuchProcess slot)
    else .attached

theorem lt_of_dueAnswer_addProcess {processes terminals place : Nat} {process : Process}
    (added : dueAnswer processes terminals (.addProcess process) = .added place) :
    processes < 50 ∧ processes = place := by
  rw [dueAnswer] at added
  split at added
  case isTrue room => exact ⟨room, Answer.added.inj added⟩
  case isFalse => cases added

theorem lt_of_dueAnswer_addTerminal {processes terminals place : Nat} {terminal : Terminal}
    (added : dueAnswer processes terminals (.addTerminal terminal) = .added place) :
    terminals < 9 ∧ terminals = place := by
  rw [dueAnswer] at added
  split at added
  case isTrue room => exact ⟨room, Answer.added.inj added⟩
  case isFalse => cases added

section Step

variable {before after : Tables} {call : Call} {answer : Answer}
  (step : Step before call answer after)

include step

theorem Step.answer_eq :
    answer = dueAnswer before.processes.size before.terminals.size call := by
  cases step with
  | addProcess room => exact (if_pos room).symm
  | processesFull process full => exact (if_neg (by omega)).symm
  | addTerminal room => exact (if_pos room).symm
  | terminalsFull terminal full => exact (if_neg (by omega)).symm
  | attach known taken =>
    rw [dueAnswer, if_neg (Nat.not_le.mpr known), if_neg (Nat.not_le.mpr taken)]
  | noTerminal unknown => exact (if_pos unknown).symm
  | noProcess known free => rw [dueAnswer, if_neg (Nat.not_le.mpr known), if_pos free]

/-- A call that fails leaves the tables as they are. -/
theorem Step.eq_of_failed {cause : TablesFault} (failed : answer = .failed cause) :
    after = before := by
  cases step with
  | processesFull | terminalsFull | noTerminal | noProcess => rfl
  | addProcess | addTerminal | attach => cases failed

end Step

/-! ### The trace of a run -/

def Call.process? : Call → Option Process
  | .addProcess process => some process
  | _ => none

def Call.terminal? : Call → Option Terminal
  | .addTerminal terminal => some terminal
  | _ => none

/-- The processes that are to be added, whether there is room or not. -/
def offeredProcesses (calls : List Call) : List Process :=
  calls.filterMap Call.process?

def offeredTerminals (calls : List Call) : List Terminal :=
  calls.filterMap Call.terminal?

/-- The terminal that a call has attached to the process in a slot. -/
def attachment? (slot : Nat) : Call × Answer → Option Nat
  | (.attach place unit, .attached) => if place = slot then some unit else none
  | _ => none

/-- The terminal that was the last to be attached to the process in a slot. -/
def lastAttachment? (slot : Nat) (trace : List (Call × Answer)) : Option Nat :=
  (trace.filterMap (attachment? slot)).getLast?

theorem lastAttachment?_append_singleton (slot : Nat) (trace : List (Call × Answer))
    (entry : Call × Answer) :
    lastAttachment? slot (trace ++ [entry]) =
      (attachment? slot entry).or (lastAttachment? slot trace) := by
  rw [lastAttachment?, List.filterMap_append, List.getLast?_append, lastAttachment?]
  cases attached : attachment? slot entry with
  | none => rw [List.filterMap_cons_none attached]; rfl
  | some unit => rw [List.filterMap_cons_some attached]; rfl

/-- One more call offers at most one more entry of a kind. -/
theorem filterMap_append_singleton {Entry : Type} (pick : Call → Option Entry)
    (trace : List (Call × Answer)) (call : Call) (answer : Answer) :
    ((trace ++ [(call, answer)]).map Prod.fst).filterMap pick =
      (trace.map Prod.fst).filterMap pick ++ (pick call).toList := by
  rw [List.map_append, List.filterMap_append]
  refine congrArg _ ?_
  cases picked : pick call with
  | none => exact List.filterMap_cons_none picked
  | some entry => exact List.filterMap_cons_some picked

/-- The entry that a call offers is found behind those that the calls before it offer. -/
theorem getElem?_filterMap_append {Entry : Type} {pick : Call → Option Entry} {call : Call}
    {entry : Entry} (picked : pick call = some entry) (earlier later : List Call) :
    ((earlier ++ call :: later).filterMap pick)[(earlier.filterMap pick).length]? = some entry := by
  rw [List.filterMap_append, List.getElem?_append_right (Nat.le_refl _), Nat.sub_self,
    List.filterMap_cons_some picked]
  rfl

section Offered

variable (trace : List (Call × Answer)) (call : Call) (answer : Answer)

theorem offeredProcesses_append_singleton :
    offeredProcesses ((trace ++ [(call, answer)]).map Prod.fst) =
      offeredProcesses (trace.map Prod.fst) ++ call.process?.toList :=
  filterMap_append_singleton ..

theorem offeredTerminals_append_singleton :
    offeredTerminals ((trace ++ [(call, answer)]).map Prod.fst) =
      offeredTerminals (trace.map Prod.fst) ++ call.terminal?.toList :=
  filterMap_append_singleton ..

variable {call}

theorem offeredProcesses_append_other (other : call.process? = none) :
    offeredProcesses ((trace ++ [(call, answer)]).map Prod.fst) =
      offeredProcesses (trace.map Prod.fst) := by
  rw [offeredProcesses_append_singleton, other]
  exact List.append_nil _

theorem offeredTerminals_append_other (other : call.terminal? = none) :
    offeredTerminals ((trace ++ [(call, answer)]).map Prod.fst) =
      offeredTerminals (trace.map Prod.fst) := by
  rw [offeredTerminals_append_singleton, other]
  exact List.append_nil _

end Offered

/-- What the tables hold can be told from the trace. -/
structure Recorded (trace : List (Call × Answer)) (tables : Tables) : Prop where
  terminals_eq : tables.terminals.entries = (offeredTerminals (trace.map Prod.fst)).take 9
  processes_eq : tables.processes.entries =
    ((offeredProcesses (trace.map Prod.fst)).take 50).mapIdx fun slot process =>
      process.attachedTo (lastAttachment? slot trace)
  known : ∀ slot unit, lastAttachment? slot trace = some unit →
    slot < tables.processes.size ∧ unit < tables.terminals.size

theorem recorded_empty : Recorded [] empty :=
  ⟨rfl, rfl, fun _ _ => nofun⟩

/-- While there is room, all that was offered is there, and one more entry goes behind it. -/
theorem take_append_of_room {Entry : Type} {offered : List Entry} {limit : Nat}
    (room : (offered.take limit).length < limit) (entry : Entry) :
    (offered ++ [entry]).take limit = offered.take limit ++ [entry] := by
  rw [List.length_take] at room
  have all : offered.length < limit := by omega
  rw [List.take_of_length_le (Nat.le_of_lt all), List.take_of_length_le]
  rw [List.length_append, List.length_singleton]
  exact all

/-- When all places are taken, one more entry changes nothing. -/
theorem take_append_of_full {Entry : Type} {offered : List Entry} {limit : Nat}
    (full : (offered.take limit).length = limit) (entry : Entry) :
    (offered ++ [entry]).take limit = offered.take limit := by
  rw [List.length_take] at full
  exact List.take_append_of_le_length (by omega)

section Recorded

variable {trace : List (Call × Answer)} {before : Tables} (recorded : Recorded trace before)

include recorded

theorem Recorded.length_processes :
    ((offeredProcesses (trace.map Prod.fst)).take 50).length = before.processes.size := by
  rw [Table.size, recorded.processes_eq, List.length_mapIdx]

theorem Recorded.length_terminals :
    ((offeredTerminals (trace.map Prod.fst)).take 9).length = before.terminals.size := by
  rw [Table.size, recorded.terminals_eq]

theorem Recorded.addProcess {process : Process} {after : Tables}
    (room : before.processes.size < 50) (terminals_eq : after.terminals = before.terminals)
    (entries_eq : after.processes.entries = before.processes.entries ++ [process]) :
    Recorded (trace ++ [(.addProcess process, .added before.processes.size)]) after := by
  have length := recorded.length_processes
  have same (slot : Nat) : lastAttachment? slot
      (trace ++ [(.addProcess process, .added before.processes.size)]) =
        lastAttachment? slot trace :=
    lastAttachment?_append_singleton ..
  -- The slot was free up to now, so that no terminal has been attached to it.
  have unattached : lastAttachment? before.processes.size trace = none :=
    Option.eq_none_iff_forall_ne_some.mpr fun unit last =>
      absurd (recorded.known _ unit last).1 (Nat.lt_irrefl _)
  have offered := take_append_of_room (length ▸ room) process
  constructor
  · rw [terminals_eq, offeredTerminals_append_other _ _ rfl]
    exact recorded.terminals_eq
  · rw [entries_eq, recorded.processes_eq, offeredProcesses_append_singleton, Call.process?,
      Option.toList_some, offered, List.mapIdx_concat, length]
    simp only [same, unattached]
    rfl
  · intro slot unit last
    obtain ⟨taken, known⟩ := recorded.known slot unit ((same slot).symm.trans last)
    rw [terminals_eq, Table.size_of_entries_append entries_eq]
    exact ⟨Nat.lt_succ_of_lt taken, known⟩

theorem Recorded.addTerminal {terminal : Terminal} {after : Tables}
    (room : before.terminals.size < 9) (processes_eq : after.processes = before.processes)
    (entries_eq : after.terminals.entries = before.terminals.entries ++ [terminal]) :
    Recorded (trace ++ [(.addTerminal terminal, .added before.terminals.size)]) after := by
  have same (slot : Nat) : lastAttachment? slot
      (trace ++ [(.addTerminal terminal, .added before.terminals.size)]) =
        lastAttachment? slot trace :=
    lastAttachment?_append_singleton ..
  have offered := take_append_of_room (recorded.length_terminals ▸ room) terminal
  constructor
  · rw [entries_eq, recorded.terminals_eq, offeredTerminals_append_singleton, Call.terminal?,
      Option.toList_some, offered]
  · rw [processes_eq, recorded.processes_eq, offeredProcesses_append_other _ _ rfl]
    simp only [same]
  · intro slot unit last
    obtain ⟨taken, known⟩ := recorded.known slot unit ((same slot).symm.trans last)
    rw [processes_eq, Table.size_of_entries_append entries_eq]
    exact ⟨taken, Nat.lt_succ_of_lt known⟩

theorem Recorded.attach {slot unit : Nat} (known : unit < before.terminals.size)
    (taken : slot < before.processes.size) :
    Recorded (trace ++ [(.attach slot unit, .attached)])
      (before.modifyProcess slot (·.attachedTo (some unit))) := by
  have changed (place : Nat) :
      lastAttachment? place (trace ++ [(.attach slot unit, .attached)]) =
        if slot = place then some unit else lastAttachment? place trace := by
    rw [lastAttachment?_append_singleton, attachment?]
    split <;> rfl
  constructor
  · rw [offeredTerminals_append_other _ _ rfl]
    exact recorded.terminals_eq
  · rw [modifyProcess, Table.entries_modify, recorded.processes_eq,
      offeredProcesses_append_other _ _ rfl]
    apply List.ext_getElem?
    intro place
    rw [List.getElem?_modify, List.getElem?_mapIdx, List.getElem?_mapIdx, Option.map_eq_map,
      Option.map_map]
    refine congrArg (fun change => Option.map change _) (funext fun process => ?_)
    rw [changed, Function.comp_apply]
    split
    · exact process.attachedTo_attachedTo _ unit
    · rfl
  · intro place other last
    rw [changed] at last
    rw [modifyProcess, Table.size_modify]
    split at last
    case isTrue here =>
      obtain rfl := Option.some.inj last
      exact ⟨here ▸ taken, known⟩
    case isFalse => exact recorded.known place other last

/-- A call that fails is no part of what the tables hold. -/
theorem Recorded.failed {call : Call} {cause : TablesFault}
    (processes :
      (offeredProcesses ((trace ++ [(call, Answer.failed cause)]).map Prod.fst)).take 50 =
        (offeredProcesses (trace.map Prod.fst)).take 50)
    (terminals :
      (offeredTerminals ((trace ++ [(call, Answer.failed cause)]).map Prod.fst)).take 9 =
        (offeredTerminals (trace.map Prod.fst)).take 9) :
    Recorded (trace ++ [(call, .failed cause)]) before := by
  have same (slot : Nat) : lastAttachment? slot (trace ++ [(call, .failed cause)]) =
      lastAttachment? slot trace := by
    rw [lastAttachment?_append_singleton]
    cases call <;> rfl
  constructor
  · rw [terminals]
    exact recorded.terminals_eq
  · simp only [processes, same]
    exact recorded.processes_eq
  · intro slot unit last
    exact recorded.known slot unit ((same slot).symm.trans last)

/-- One more call, and what it answered, keeps the record. -/
theorem Recorded.step {after : Tables} {call : Call} {answer : Answer}
    (step : Step before call answer after) : Recorded (trace ++ [(call, answer)]) after := by
  cases step with
  | addProcess room terminals_eq entries_eq =>
    exact recorded.addProcess room terminals_eq entries_eq
  | addTerminal room processes_eq entries_eq =>
    exact recorded.addTerminal room processes_eq entries_eq
  | attach known taken => exact recorded.attach known taken
  | processesFull process full =>
    refine recorded.failed ?_ (congrArg _ (offeredTerminals_append_other _ _ rfl))
    rw [offeredProcesses_append_singleton]
    exact take_append_of_full (recorded.length_processes.trans full) process
  | terminalsFull terminal full =>
    refine recorded.failed (congrArg _ (offeredProcesses_append_other _ _ rfl)) ?_
    rw [offeredTerminals_append_singleton]
    exact take_append_of_full (recorded.length_terminals.trans full) terminal
  | noTerminal | noProcess =>
    exact recorded.failed (congrArg _ (offeredProcesses_append_other _ _ rfl))
      (congrArg _ (offeredTerminals_append_other _ _ rfl))

/-- Whole runs keep it too. -/
theorem Recorded.run (calls : List Call) :
    Recorded (trace ++ (run calls before).1) (run calls before).2 := by
  induction calls generalizing trace before with
  | nil => exact (List.append_nil trace).symm ▸ recorded
  | cons call rest inductionHypothesis =>
    have later := inductionHypothesis (recorded.step (step_perform call before))
    rw [List.append_assoc, List.singleton_append] at later
    exact later

end Recorded

theorem recorded_run (calls : List Call) : Recorded (run calls empty).1 (run calls empty).2 :=
  recorded_empty.run calls

/-! ### Entries by their calls -/

section Run

variable (calls : List Call)

theorem processes_size_run :
    (run calls empty).2.processes.size = min 50 (offeredProcesses calls).length := by
  have length := (recorded_run calls).length_processes
  rw [map_fst_run, List.length_take] at length
  exact length.symm

theorem terminals_size_run :
    (run calls empty).2.terminals.size = min 9 (offeredTerminals calls).length := by
  have length := (recorded_run calls).length_terminals
  rw [map_fst_run, List.length_take] at length
  exact length.symm

variable {calls} {earlier later : List Call} {call : Call}
  (split : calls = earlier ++ call :: later)

include split

/-- The call at a place of a run is answered by the tables that the calls before it have left. -/
theorem run_getElem? :
    (run calls empty).1[earlier.length]? =
      some (call, ((run earlier empty).2.perform call).1) := by
  have length : (run earlier empty).1.length = earlier.length := by
    rw [← List.length_map Prod.fst, map_fst_run]
  rw [split, run_append, ← length, List.getElem?_append_right (Nat.le_refl _), Nat.sub_self,
    run_cons]
  rfl

theorem get?_run_of_addProcess {process : Process} (added : call = .addProcess process)
    (room : (run earlier empty).2.processes.size < 50) :
    (run calls empty).2.processes.get? (run earlier empty).2.processes.size =
      some (process.attachedTo
        (lastAttachment? (run earlier empty).2.processes.size (run calls empty).1)) := by
  have place : (run earlier empty).2.processes.size = (offeredProcesses earlier).length := by
    rw [processes_size_run] at *
    omega
  have offered : (offeredProcesses calls)[(offeredProcesses earlier).length]? = some process := by
    have picked : (Call.addProcess process).process? = some process := rfl
    rw [split, added]
    exact getElem?_filterMap_append picked earlier later
  rw [Table.get?, (recorded_run calls).processes_eq, map_fst_run, List.getElem?_mapIdx,
    List.getElem?_take_of_lt room, place, offered]
  rfl

theorem get?_run_of_addTerminal {terminal : Terminal} (added : call = .addTerminal terminal)
    (room : (run earlier empty).2.terminals.size < 9) :
    (run calls empty).2.terminals.get? (run earlier empty).2.terminals.size = some terminal := by
  have place : (run earlier empty).2.terminals.size = (offeredTerminals earlier).length := by
    rw [terminals_size_run] at *
    omega
  have offered : (offeredTerminals calls)[(offeredTerminals earlier).length]? = some terminal := by
    have picked : (Call.addTerminal terminal).terminal? = some terminal := rfl
    rw [split, added]
    exact getElem?_filterMap_append picked earlier later
  rw [Table.get?, (recorded_run calls).terminals_eq, map_fst_run, List.getElem?_take_of_lt room,
    place, offered]

end Run

/-! ### Attached terminals -/

/-- The terminal that was last attached to a process is there, and the process has its address. -/
theorem get?_run_of_lastAttachment {calls : List Call} {slot unit : Nat}
    (last : lastAttachment? slot (run calls empty).1 = some unit) :
    ∃ process terminal, (run calls empty).2.processes.get? slot = some process ∧
      (run calls empty).2.terminals.get? unit = some terminal ∧
      process.record.terminal.toNat = 1024 + 32 * unit := by
  have recorded := recorded_run calls
  obtain ⟨taken, known⟩ := recorded.known slot unit last
  obtain ⟨process, offered⟩ : ∃ process,
      ((offeredProcesses ((run calls empty).1.map Prod.fst)).take 50)[slot]? = some process :=
    ⟨_, List.getElem?_eq_getElem (recorded.length_processes ▸ taken)⟩
  have found : (run calls empty).2.processes.get? slot =
      some (process.attachedTo (some unit)) := by
    rw [Table.get?, recorded.processes_eq, List.getElem?_mapIdx, last, offered]
    rfl
  exact ⟨_, _, found, List.getElem?_eq_getElem known,
    AddressMap.toNat_terminal (Nat.lt_of_lt_of_le known (run calls empty).2.terminals.fits)⟩

/-- A lister that follows the address of a terminal finds its device number. -/
theorem exists_listed {tables : Tables} {slot unit : Nat} {process : Process}
    {terminal : Terminal} (found : tables.processes.get? slot = some process)
    (there : tables.terminals.get? unit = some terminal)
    (address : process.record.terminal.toNat = 1024 + 32 * unit)
    (used : process.record.status ≠ 0) :
    ∃ listed after entry,
      (KernelReader.openMemory >>= fun _ => KernelReader.entries).run
        { switch := .standard, kernel := { tables } } = (.ok listed, after) ∧
      listed[tables.listedBefore slot]? = some entry ∧
      entry.record.address.toNat = 64 + slot ∧
      entry.terminal = some terminal.header.deviceNumber := by
  have serves : KernelReader.Serves { switch := .standard, kernel := { tables } } := ⟨rfl, rfl⟩
  refine ⟨_, _, _, (KernelReader.openMemory_gives serves).bind (KernelReader.entries_give serves),
    walk_getElem? found used, ?_, ?_⟩
  · have small : slot < 50 :=
      Nat.lt_of_lt_of_le (List.getElem?_eq_some_iff.mp found).1 tables.processes.fits
    exact UInt16.toNat_ofNat_of_lt' (show 64 + slot < 65536 by omega)
  · exact terminalNumber?_eq_some_iff.mpr ⟨unit, terminal, there, address, rfl⟩

/-- Over any run of calls on empty tables, the tables grow with each entry that is offered until
they are full, and each call is answered by what the calls before it have left. A call that fails
changes nothing. An entry stays at the place that its call was given, as it was added, but that a
process has the terminal that was last attached to it with success. That terminal is in the table,
the process has its address, and with that address a lister finds its device number. -/
theorem run_keeps_entries (calls : List Call) :
    let (past, tables) := run calls empty
    tables.processes.size = min 50 (offeredProcesses calls).length ∧
    tables.terminals.size = min 9 (offeredTerminals calls).length ∧
    (∀ earlier call later, calls = earlier ++ call :: later →
      let before := (run earlier empty).2
      let after := (run (earlier ++ [call]) empty).2
      let answer := dueAnswer before.processes.size before.terminals.size call
      past[earlier.length]? = some (call, answer) ∧
      (∀ cause, answer = .failed cause → after = before) ∧
      (∀ process slot, call = .addProcess process → answer = .added slot →
        tables.processes.get? slot = some (process.attachedTo (lastAttachment? slot past))) ∧
      ∀ terminal unit, call = .addTerminal terminal → answer = .added unit →
        tables.terminals.get? unit = some terminal) ∧
    ∀ slot unit, lastAttachment? slot past = some unit →
      ∃ process terminal, tables.processes.get? slot = some process ∧
        tables.terminals.get? unit = some terminal ∧
        process.record.terminal.toNat = 1024 + 32 * unit ∧
        (process.record.status ≠ 0 →
          ∃ listed after entry,
            (KernelReader.openMemory >>= fun _ => KernelReader.entries).run
              { switch := .standard, kernel := { tables } } = (.ok listed, after) ∧
            listed[tables.listedBefore slot]? = some entry ∧
            entry.record.address.toNat = 64 + slot ∧
            entry.terminal = some terminal.header.deviceNumber) := by
  refine ⟨processes_size_run calls, terminals_size_run calls, ?answers, ?listing⟩
  case answers =>
    intro earlier call later split before after answer
    have step := step_perform call before
    have answered : (before.perform call).1 = answer := step.answer_eq
    refine ⟨?_, ?_, ?_, ?_⟩
    · rw [run_getElem? split, ← answered]
    · intro cause failed
      have last : after = (before.perform call).2 := by
        show (run (earlier ++ [call]) empty).2 = _
        rw [run_append]
        rfl
      rw [last]
      exact step.eq_of_failed (answered.trans failed)
    · rintro process slot rfl added
      obtain ⟨room, rfl⟩ := lt_of_dueAnswer_addProcess added
      exact get?_run_of_addProcess split rfl room
    · rintro terminal unit rfl added
      obtain ⟨room, rfl⟩ := lt_of_dueAnswer_addTerminal added
      exact get?_run_of_addTerminal split rfl room
  case listing =>
    intro slot unit last
    obtain ⟨process, terminal, found, there, address⟩ := get?_run_of_lastAttachment last
    exact ⟨process, terminal, found, there, address, exists_listed found there address⟩

/-- An attachment that fails leaves the one before it in place. -/
example (terminal : Terminal) (process : Process) :
    lastAttachment? 0
      (run [.addTerminal terminal, .addProcess process, .attach 0 0, .attach 0 1] empty).1 =
        some 0 :=
  rfl

end Tables

end SixthEdition
