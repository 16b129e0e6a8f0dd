/-
This file proves that the queue counts in the header of a terminal are the
lengths of the queues, whenever a program looks them up in kernel memory.

The counts are copies. Most operations end by writing them anew, and then they
are right whatever they were before; opening and closing the line write none,
but leave the queues alone. What a system does to one of its terminals, from the
line or through the device switch, is always a run of that terminal, so that a
header is right after any run of the system that starts with fresh terminals.
-/

import SixthEdition.Proofs.DeviceCalls
import SixthEdition.Proofs.KernelMemory
import SixthEdition.Proofs.TerminalRuns

namespace SixthEdition

namespace Terminal

/-! ### Counts -/

theorem toInt_shownCount (queue : Bytes) :
    (shownCount queue).toInt = ((min 32767 queue.length : Nat) : Int) := by
  rw [shownCount, Nat.min_comm, Int16.toInt_ofNat_of_lt]
  show min 32767 queue.length < 32768
  omega

/-- The counts are those of the queues: writing them anew changes nothing. -/
def Counted (terminal : Terminal) : Prop :=
  terminal.refreshCounts = terminal

theorem counted_refreshCounts (terminal : Terminal) : Counted terminal.refreshCounts := rfl

theorem counted_fresh (device : DeviceNumber) : Counted (fresh device) := rfl

/-- Opening a line commutes with writing the counts. -/
theorem Counted.openLine {terminal : Terminal} (counted : Counted terminal) :
    Counted terminal.openLine := by
  have commutes : terminal.openLine.refreshCounts = terminal.refreshCounts.openLine := by
    have opened : terminal.refreshCounts.isOpen = terminal.isOpen := rfl
    rw [Terminal.openLine, Terminal.openLine, opened]
    cases terminal.isOpen <;> rfl
  rw [Counted, commutes, counted]

theorem Counted.closeLine {terminal : Terminal} (counted : Counted terminal) :
    Counted terminal.closeLine :=
  congrArg Terminal.closeLine counted

theorem Counted.perform {terminal : Terminal} (counted : Counted terminal) (action : Action) :
    Counted (terminal.perform action).2 := by
  cases action with
  | receive typed => exact counted_refreshCounts _
  | takeOutput => exact counted_refreshCounts _
  | read room =>
    show Counted (terminal.read room).2
    rw [read]
    split <;> exact counted_refreshCounts _
  | write bytes => exact counted_refreshCounts _
  | openLine => exact counted.openLine
  | closeLine => exact counted.closeLine
  | configure settings => exact counted_refreshCounts _

/-! ### What stays -/

/-- The parts of a header that no operation touches: the block numbers of the queues, and the
number of the device. -/
structure Wiring where
  raw : UInt16 × UInt16
  canonical : UInt16 × UInt16
  output : UInt16 × UInt16
  device : UInt16

def wiring (terminal : Terminal) : Wiring where
  raw := (terminal.header.rawQueue.first, terminal.header.rawQueue.last)
  canonical := (terminal.header.canonicalQueue.first, terminal.header.canonicalQueue.last)
  output := (terminal.header.outputQueue.first, terminal.header.outputQueue.last)
  device := terminal.header.device

theorem wiring_canonicalize (terminal : Terminal) :
    terminal.canonicalize.wiring = terminal.wiring := by
  rw [canonicalize]
  split <;> rfl

theorem wiring_perform (terminal : Terminal) (action : Action) :
    (terminal.perform action).2.wiring = terminal.wiring := by
  cases action with
  | receive typed =>
    show (terminal.receive typed).wiring = terminal.wiring
    cases echo : terminal.header.modes.has .echo <;> simp only [receive, echo] <;> rfl
  | read room =>
    show (terminal.read room).2.wiring = terminal.wiring
    rw [read]
    split
    · rfl
    · split
      · exact wiring_canonicalize terminal
      · rfl
  | openLine =>
    cases opened : terminal.isOpen <;> simp only [Terminal.perform, openLine, opened] <;> rfl
  | takeOutput | write bytes | closeLine | configure settings => rfl

/-- Whatever happens on a line that starts fresh, its header is right: the counts are those of the
queues, no blocks are linked to them, and the device is the one that the line started with. -/
theorem header_run_fresh (device : DeviceNumber) (actions : List Action) :
    Counted (run actions (fresh device)).2 ∧
      (run actions (fresh device)).2.wiring = (fresh device).wiring :=
  @run_induction (fun _ => True)
    (fun _ terminal => Counted terminal ∧ terminal.wiring = (fresh device).wiring)
    (fun action _ holds => ⟨holds.1.perform action, (wiring_perform _ action).trans holds.2⟩)
    actions (fun _ _ => trivial) [] _ ⟨counted_fresh device, rfl⟩

end Terminal

/-! ### Terminals in a system -/

/-- A request of the terminal device is an action of the terminal, or none. -/
theorem Device.Line.exists_run_of_operate (request : Device.Request) (terminal : Terminal) :
    ∃ actions, (Device.Line.operate request terminal).2 = (Terminal.run actions terminal).2 := by
  cases request with
  | openFor mode => exact ⟨[.openLine], rfl⟩
  | read offset buffer => exact ⟨[.read buffer.length], rfl⟩
  | write offset bytes => exact ⟨[.write bytes], rfl⟩
  | close => exact ⟨[.closeLine], rfl⟩
  | control set report =>
    cases set with
    | none => exact ⟨[], rfl⟩
    | some settings => exact ⟨[.configure settings], rfl⟩

/-- What happens in a system: something on the line of one of its terminals, or a call of a
device. -/
inductive Event where
  | receive (unit : Nat) (typed : Bytes)
  | takeOutput (unit : Nat)
  | call (call : DeviceSwitch.Call)

namespace Kernel

def happen (switch : DeviceSwitch) (kernel : Kernel) : Event → Kernel
  | .receive unit typed =>
    { kernel with tables := kernel.tables.modifyTerminal unit (Terminal.receive typed) }
  | .takeOutput unit =>
    { kernel with
      tables := kernel.tables.modifyTerminal unit fun terminal => terminal.takeOutput.2 }
  | .call call => (switch.perform call kernel).2

/-- The kernel after some events in order. -/
def afterEvents (switch : DeviceSwitch) (events : List Event) (kernel : Kernel) : Kernel :=
  events.foldl (happen switch) kernel

/-- In the second kernel each terminal is what a run of its own has made of the terminal in the
first. -/
def Moves (before after : Kernel) : Prop :=
  ∀ unit, ∃ actions, after.tables.terminals.get? unit =
    (before.tables.terminals.get? unit).map fun terminal => (Terminal.run actions terminal).2

variable {before middle after : Kernel}

theorem Moves.refl (kernel : Kernel) : Moves kernel kernel :=
  fun _ => ⟨[], Option.map_id'.symm⟩

theorem Moves.trans (first : Moves before middle) (second : Moves middle after) :
    Moves before after := by
  intro unit
  obtain ⟨earlier, firstEq⟩ := first unit
  obtain ⟨later, secondEq⟩ := second unit
  refine ⟨earlier ++ later, ?_⟩
  rw [secondEq, firstEq, Option.map_map]
  refine congrArg (Option.map · _) (funext fun terminal => ?_)
  exact (congrArg Prod.snd (Terminal.run_append earlier later terminal)).symm

/-- A terminal that is changed in place moves as the change says, the others stay. -/
theorem moves_modifyTerminal (kernel : Kernel) {unit : Nat} {change : Terminal → Terminal}
    (runs : ∀ terminal, kernel.tables.terminals.get? unit = some terminal →
      ∃ actions, change terminal = (Terminal.run actions terminal).2) :
    Moves kernel { kernel with tables := kernel.tables.modifyTerminal unit change } := by
  intro other
  by_cases same : other = unit
  · subst same
    show ∃ actions, (kernel.tables.terminals.modify other change).get? other = _
    rw [Table.get?_modify_self]
    cases found : kernel.tables.terminals.get? other with
    | none => exact ⟨[], rfl⟩
    | some terminal =>
      obtain ⟨actions, changed⟩ := runs terminal found
      exact ⟨actions, congrArg some changed⟩
  · refine ⟨[], ?_⟩
    show (kernel.tables.terminals.modify unit change).get? other = _
    rw [Table.get?_modify_of_ne same]
    exact Option.map_id'.symm

/-- A call of a device is a run of the terminal that it names, and of no other. -/
theorem moves_request (switch : DeviceSwitch) (device : DeviceNumber) (request : Device.Request)
    (kernel : Kernel) : Moves kernel (switch.request device request kernel).2 := by
  by_cases isTerminal : switch.resolve device.major = .terminal
  · rw [DeviceSwitch.request, isTerminal, Device.serve, Device.Line.serve]
    cases found : kernel.tables.terminals.get? device.minor.toNat with
    | none => exact Moves.refl kernel
    | some terminal =>
      refine moves_modifyTerminal kernel fun present presentFound => ?_
      obtain rfl := Option.some.inj (found.symm.trans presentFound)
      exact Device.Line.exists_run_of_operate request terminal
  · intro unit
    refine ⟨[], ?_⟩
    have clean := DeviceSwitch.cleanCall_request switch device request kernel
    rw [clean.others_eq unit fun resolved => absurd resolved isTerminal]
    exact Option.map_id'.symm

theorem moves_happen (switch : DeviceSwitch) (kernel : Kernel) (event : Event) :
    Moves kernel (happen switch kernel event) := by
  cases event with
  | receive unit typed =>
    exact moves_modifyTerminal kernel fun _ _ => ⟨[.receive typed], rfl⟩
  | takeOutput unit => exact moves_modifyTerminal kernel fun _ _ => ⟨[.takeOutput], rfl⟩
  | call call =>
    cases call with
    | request device request => exact moves_request switch device request kernel
    | takeError => exact Moves.refl kernel

/-- Whatever happens in a system, each of its terminals goes through a run of its own. -/
theorem moves_afterEvents (switch : DeviceSwitch) (events : List Event) (kernel : Kernel) :
    Moves kernel (afterEvents switch events kernel) := by
  induction events generalizing kernel with
  | nil => exact Moves.refl kernel
  | cons event rest inductionHypothesis =>
    exact (moves_happen switch kernel event).trans (inductionHypothesis _)

end Kernel

/-! ### What kernel memory shows -/

/-- Kernel memory shows the true counts. In a system whose terminals start fresh, whatever has
happened on their lines and through the device switch, the 32 bytes at the place of a terminal can
be read, and they decode to a header in which each queue has its length, or 32767 for a longer one,
and no blocks, and which names the device that the terminal had at the start. -/
theorem header_shows_queue_lengths (kernel : Kernel)
    (fresh : ∀ unit terminal, kernel.tables.terminals.get? unit = some terminal →
      ∃ device, terminal = .fresh device)
    (events : List Event) (unit : Nat) (present : unit < kernel.tables.terminals.size)
    (minor : UInt8) (buffer : Bytes) (sized : buffer.length = 32) :
    let after := kernel.afterEvents .standard events
    ∃ first terminal reply header,
      kernel.tables.terminals.get? unit = some first ∧
      after.tables.terminals.get? unit = some terminal ∧
      DeviceSwitch.standard.request ⟨2, minor⟩ (.read (1024 + 32 * unit) buffer) after =
        (reply, after) ∧
      reply.count = 32 ∧ Terminal.Header.ofBytes reply.buffer = .ok header ∧
      header.rawQueue.count.toInt = min 32767 terminal.raw.length ∧
      header.canonicalQueue.count.toInt = min 32767 terminal.canonical.length ∧
      header.outputQueue.count.toInt = min 32767 terminal.output.length ∧
      (header.rawQueue.first = 0 ∧ header.rawQueue.last = 0) ∧
      (header.canonicalQueue.first = 0 ∧ header.canonicalQueue.last = 0) ∧
      (header.outputQueue.first = 0 ∧ header.outputQueue.last = 0) ∧
      header.deviceNumber = first.header.deviceNumber := by
  intro after
  have found : kernel.tables.terminals.get? unit = some kernel.tables.terminals.entries[unit] :=
    List.getElem?_eq_getElem present
  obtain ⟨device, started⟩ := fresh unit _ found
  rw [started] at found
  obtain ⟨actions, moved⟩ := Kernel.moves_afterEvents .standard events kernel unit
  rw [found, Option.map_some] at moved
  have afterPresent : unit < after.tables.terminals.size := (List.getElem?_eq_some_iff.mp moved).1
  obtain ⟨counted, wired⟩ := Terminal.header_run_fresh device actions
  generalize (Terminal.run actions (.fresh device)).2 = terminal at moved counted wired
  have served : DeviceSwitch.standard.request ⟨2, minor⟩ (.read (1024 + 32 * unit) buffer) after =
      ({ count := 32, buffer := terminal.header.toBytes }, after) := by
    show (Device.Memory.read after.tables (1024 + 32 * unit) buffer, after) = _
    rw [Device.Memory.read_of_covers (.terminal unit) ⟨afterPresent, rfl, sized⟩,
      Device.Memory.readWindow, moved]
    rfl
  refine ⟨_, terminal, _, terminal.header, found, moved, served, rfl,
    Terminal.Header.ofBytes_toBytes terminal.header, ?raw, ?canonical, ?output, ?rawBlocks,
    ?canonicalBlocks, ?outputBlocks, ?device⟩
  case raw =>
    rw [← congrArg (·.header.rawQueue.count) counted]
    exact Terminal.toInt_shownCount terminal.raw
  case canonical =>
    rw [← congrArg (·.header.canonicalQueue.count) counted]
    exact Terminal.toInt_shownCount terminal.canonical
  case output =>
    rw [← congrArg (·.header.outputQueue.count) counted]
    exact Terminal.toInt_shownCount terminal.output
  case rawBlocks => exact Prod.mk.inj (congrArg Terminal.Wiring.raw wired)
  case canonicalBlocks => exact Prod.mk.inj (congrArg Terminal.Wiring.canonical wired)
  case outputBlocks => exact Prod.mk.inj (congrArg Terminal.Wiring.output wired)
  case device =>
    have same : terminal.header.device = (Terminal.fresh device).header.device :=
      congrArg Terminal.Wiring.device wired
    rw [Terminal.Header.deviceNumber, Terminal.Header.deviceNumber, same]

/-- In the middle of a line, behind a read of one character and a call that fails: one character
waits in the raw queue, two in the canonical queue, and the echo of all five bytes goes out. -/
theorem header_shows_queue_lengths_within_line :
    let kernel : Kernel := { tables := ⟨.empty, ⟨[.fresh ⟨4, 0⟩], by decide⟩⟩ }
    let events : List Event :=
      [.receive 0 [104, 105, 10, 120], .call (.request ⟨4, 0⟩ (.read 0 [7])),
        .call (.request ⟨4, 1⟩ .close)]
    let after := kernel.afterEvents .standard events
    (∀ unit terminal, kernel.tables.terminals.get? unit = some terminal →
      ∃ device, terminal = .fresh device) ∧
    ∃ header,
      Terminal.Header.ofBytes (DeviceSwitch.standard.request ⟨2, 0⟩
        (.read 1024 (List.replicate 32 7)) after).1.buffer = .ok header ∧
      header.rawQueue.count.toInt = 1 ∧ header.canonicalQueue.count.toInt = 2 ∧
      header.outputQueue.count.toInt = 5 ∧ header.deviceNumber = ⟨4, 0⟩ := by
  intro kernel events after
  have fresh : ∀ unit terminal, kernel.tables.terminals.get? unit = some terminal →
      ∃ device, terminal = .fresh device := by
    intro unit terminal found
    exact ⟨⟨4, 0⟩, List.mem_singleton.mp (List.mem_of_getElem? found)⟩
  refine ⟨fresh, ?_⟩
  obtain ⟨first, terminal, reply, header, started, reached, served, -, decoded, raw, canonical,
    output, -, -, -, device⟩ := header_shows_queue_lengths kernel fresh events 0 (by decide) 0
      (List.replicate 32 7) rfl
  have lengths : (after.tables.terminals.get? 0).map
      (fun terminal => (terminal.raw.length, terminal.canonical.length, terminal.output.length)) =
      some (1, 2, 5) := by decide
  rw [reached, Option.map_some, Option.some.injEq, Prod.mk.injEq, Prod.mk.injEq] at lengths
  obtain ⟨rawLength, canonicalLength, outputLength⟩ := lengths
  obtain rfl := Option.some.inj started
  refine ⟨header, ?_, ?_, ?_, ?_, device⟩
  · exact (congrArg (fun result => Terminal.Header.ofBytes result.1.buffer) served).trans decoded
  · rw [raw, rawLength]
    rfl
  · rw [canonical, canonicalLength]
    rfl
  · rw [output, outputLength]
    rfl

end SixthEdition
