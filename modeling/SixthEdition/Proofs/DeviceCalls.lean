/-
This file proves what becomes of the error slot and of the tables when programs
call devices. Whether a call fails is settled by the device that the major
number stands for, by the kind of the call, and for a terminal by the number of
terminals; nothing that happened before plays a part in it. A call that fails
has done nothing but to leave its error. A call that goes well does not look at
the slot, so that an error stays there until it is taken or another takes its
place.

The terminal device is the only one that changes a terminal. It looks for the
terminal before it does anything, and the others never get hold of one.
-/

import SixthEdition.DeviceSwitch

namespace SixthEdition

/-! ### Refusals -/

namespace Device

def Request.isControl : Request → Bool
  | .control .. => true
  | _ => false

def Request.isWrite : Request → Bool
  | .write .. => true
  | _ => false

/-- The error that a device reports for a request to one of its units, in a system with so many
terminals. -/
def refusal? (device : Device) (terminals : Nat) (unit : UInt8) (request : Request) :
    Option ErrorNumber :=
  match device with
  | .error => some (if request.isControl then .enotty else .enxio)
  | .null => if request.isControl then some .enotty else none
  | .memory =>
    if request.isWrite then some .eperm else if request.isControl then some .enotty else none
  | .terminal => if terminals ≤ unit.toNat then some .enxio else none

variable {device : Device} {unit : UInt8} {request : Request} {kernel : Kernel}

theorem isSome_refusal?_iff {terminals : Nat} :
    (device.refusal? terminals unit request).isSome ↔
      device = .error ∨ device = .null ∧ request.isControl ∨
        device = .memory ∧ (request.isWrite ∨ request.isControl) ∨
        device = .terminal ∧ terminals ≤ unit.toNat := by
  cases device with
  | error => simp [refusal?]
  | null => cases control : request.isControl <;> simp [refusal?, control]
  | memory =>
    cases write : request.isWrite <;> cases control : request.isControl <;>
      simp [refusal?, write, control]
  | terminal => by_cases missing : terminals ≤ unit.toNat <;> simp [refusal?, missing]

/-- A device that reports an error does nothing else. -/
theorem serve_of_refusal? {code : ErrorNumber}
    (refused : device.refusal? kernel.tables.terminals.size unit request = some code) :
    device.serve unit request kernel = refuse code request kernel := by
  cases device with
  | error =>
    obtain rfl := Option.some.inj refused
    cases request <;> rfl
  | null =>
    cases request with
    | control set report =>
      obtain rfl := Option.some.inj refused
      rfl
    | _ => cases refused
  | memory =>
    cases request with
    | write offset bytes =>
      obtain rfl := Option.some.inj refused
      rfl
    | control set report =>
      obtain rfl := Option.some.inj refused
      rfl
    | _ => cases refused
  | terminal =>
    rw [refusal?, Option.ite_none_right_eq_some] at refused
    obtain ⟨missing, same⟩ := refused
    obtain rfl := Option.some.inj same
    rw [serve, Line.serve, (Table.get?_eq_none_iff _ _).mpr missing]

/-- A device that reports no error leaves the kernel as it is, but for the terminal that the
terminal device finds under the unit number. -/
theorem serve_of_not_refused
    (served : device.refusal? kernel.tables.terminals.size unit request = none) :
    (device.serve unit request kernel).2 = kernel ∨
      device = .terminal ∧ ∃ change, (device.serve unit request kernel).2 =
        { kernel with tables := kernel.tables.modifyTerminal unit.toNat change } := by
  cases device with
  | error => cases served
  | null =>
    cases request with
    | control set report => cases served
    | _ => exact .inl rfl
  | memory =>
    cases request with
    | write offset bytes => cases served
    | control set report => cases served
    | _ => exact .inl rfl
  | terminal =>
    rw [serve, Line.serve]
    cases found : kernel.tables.terminals.get? unit.toNat with
    | none =>
      rw [refusal?, if_pos ((Table.get?_eq_none_iff _ _).mp found)] at served
      cases served
    | some terminal => exact .inr ⟨rfl, _, rfl⟩

end Device

/-! ### One call -/

namespace DeviceSwitch

/-- The error that a call reports. -/
def refusal? (switch : DeviceSwitch) (terminals : Nat) (device : DeviceNumber)
    (request : Device.Request) : Option ErrorNumber :=
  (switch.resolve device.major).refusal? terminals device.minor request

/-- A call has failed without doing anything, or it has gone well without touching the error
slot. -/
structure CleanCall (switch : DeviceSwitch) (device : DeviceNumber) (request : Device.Request)
    (before : Kernel) (reply : Device.Reply) (after : Kernel) : Prop where
  refused_iff : (switch.refusal? before.tables.terminals.size device request).isSome ↔
    switch.resolve device.major = .error ∨
      switch.resolve device.major = .null ∧ request.isControl ∨
      switch.resolve device.major = .memory ∧ (request.isWrite ∨ request.isControl) ∨
      switch.resolve device.major = .terminal ∧
        before.tables.terminals.size ≤ device.minor.toNat
  /-- A call that reports an error leaves it in the slot; any other leaves the slot as it was. -/
  error_eq : after.error =
    (switch.refusal? before.tables.terminals.size device request).or before.error
  /-- A call that reports an error has done nothing. -/
  untouched : (switch.refusal? before.tables.terminals.size device request).isSome →
    reply.count = 0 ∧ (∀ offset buffer, request = .read offset buffer → reply.buffer = buffer) ∧
      (∀ set report, request = .control set report → reply.report = report) ∧
      after.tables = before.tables
  processes_eq : after.tables.processes = before.tables.processes
  size_eq : after.tables.terminals.size = before.tables.terminals.size
  /-- A call may change the terminal that it names, if its device is the terminal device. -/
  others_eq : ∀ unit, (switch.resolve device.major = .terminal → unit ≠ device.minor.toNat) →
    after.tables.terminals.get? unit = before.tables.terminals.get? unit

theorem cleanCall_request (switch : DeviceSwitch) (device : DeviceNumber)
    (request : Device.Request) (before : Kernel) :
    CleanCall switch device request before (switch.request device request before).1
      (switch.request device request before).2 := by
  cases reported : switch.refusal? before.tables.terminals.size device request with
  | some code =>
    have refused : switch.request device request before = Device.refuse code request before :=
      Device.serve_of_refusal? reported
    refine ⟨Device.isSome_refusal?_iff, ?_, ?_, ?_, ?_, ?_⟩
    · rw [refused, reported]
      rfl
    · intro _
      rw [refused]
      refine ⟨?_, ?_, ?_, rfl⟩
      · cases request <;> rfl
      · rintro offset buffer rfl
        rfl
      · rintro set report rfl
        rfl
    · rw [refused]
      rfl
    · rw [refused]
      rfl
    · intro unit _
      rw [refused]
      rfl
  | none =>
    have nothing : ¬ (switch.refusal? before.tables.terminals.size device request).isSome := by
      rw [reported]
      exact Bool.false_ne_true
    rcases Device.serve_of_not_refused reported with same | ⟨isTerminal, change, changed⟩
    · have kept : (switch.request device request before).2 = before := same
      rw [kept]
      exact ⟨Device.isSome_refusal?_iff, by rw [reported]; rfl, fun some => absurd some nothing,
        rfl, rfl, fun _ _ => rfl⟩
    · have kept : (switch.request device request before).2 = _ := changed
      rw [kept]
      refine ⟨Device.isSome_refusal?_iff, by rw [reported]; rfl, fun some => absurd some nothing,
        rfl, Table.size_modify .., ?_⟩
      intro unit other
      exact Table.get?_modify_of_ne (other isTerminal) change _

/-! ### Runs of calls -/

/-- What a program does that uses devices: it calls them, and takes the error out of its slot. -/
inductive Call where
  | request (device : DeviceNumber) (request : Device.Request)
  | takeError

inductive Answer where
  | reply (reply : Device.Reply)
  | error (error : Option ErrorNumber)

def perform (switch : DeviceSwitch) (call : Call) (kernel : Kernel) : Answer × Kernel :=
  match call with
  | .request device request =>
    let (reply, kernel) := switch.request device request kernel
    (.reply reply, kernel)
  | .takeError =>
    let (error, kernel) := kernel.takeError
    (.error error, kernel)

def run (switch : DeviceSwitch) : List Call → Kernel → List Answer × Kernel
  | [], kernel => ([], kernel)
  | call :: rest, kernel =>
    let (answer, after) := switch.perform call kernel
    let (answers, final) := switch.run rest after
    (answer :: answers, final)

/-- The errors that are reported in calls, in their order. -/
def refusals (switch : DeviceSwitch) (terminals : Nat) (calls : List Call) : List ErrorNumber :=
  calls.filterMap fun call =>
    match call with
    | .request device request => switch.refusal? terminals device request
    | .takeError => none

section Runs

variable (switch : DeviceSwitch) (kernel : Kernel)

theorem refusals_cons (terminals : Nat) (device : DeviceNumber) (request : Device.Request)
    (rest : List Call) :
    switch.refusals terminals (.request device request :: rest) =
      (switch.refusal? terminals device request).toList ++ switch.refusals terminals rest := by
  cases reported : switch.refusal? terminals device request with
  | none => exact List.filterMap_cons_none reported
  | some code => exact List.filterMap_cons_some reported

theorem run_cons (call : Call) (rest : List Call) :
    switch.run (call :: rest) kernel =
      ((switch.perform call kernel).1 :: (switch.run rest (switch.perform call kernel).2).1,
        (switch.run rest (switch.perform call kernel).2).2) :=
  rfl

theorem run_append (earlier later : List Call) :
    switch.run (earlier ++ later) kernel =
      ((switch.run earlier kernel).1 ++ (switch.run later (switch.run earlier kernel).2).1,
        (switch.run later (switch.run earlier kernel).2).2) := by
  induction earlier generalizing kernel with
  | nil => rfl
  | cons call rest inductionHypothesis =>
    rw [List.cons_append, run_cons, inductionHypothesis, run_cons, List.cons_append]

theorem length_run (calls : List Call) : (switch.run calls kernel).1.length = calls.length := by
  induction calls generalizing kernel with
  | nil => rfl
  | cons call rest inductionHypothesis =>
    rw [run_cons, List.length_cons, inductionHypothesis, List.length_cons]

/-- Calls never touch the processes, nor the terminals that none of them names. -/
theorem tables_run (calls : List Call) :
    (switch.run calls kernel).2.tables.processes = kernel.tables.processes ∧
    (switch.run calls kernel).2.tables.terminals.size = kernel.tables.terminals.size ∧
    ∀ unit, (∀ device request, .request device request ∈ calls →
        switch.resolve device.major = .terminal → unit ≠ device.minor.toNat) →
      (switch.run calls kernel).2.tables.terminals.get? unit =
        kernel.tables.terminals.get? unit := by
  induction calls generalizing kernel with
  | nil => exact ⟨rfl, rfl, fun _ _ => rfl⟩
  | cons call rest inductionHypothesis =>
    obtain ⟨processes, size, others⟩ := inductionHypothesis (switch.perform call kernel).2
    have later : ∀ {unit : Nat}, (∀ device request, .request device request ∈ call :: rest →
        switch.resolve device.major = .terminal → unit ≠ device.minor.toNat) →
        ∀ device request, .request device request ∈ rest →
        switch.resolve device.major = .terminal → unit ≠ device.minor.toNat :=
      fun unnamed device request member => unnamed device request (List.mem_cons_of_mem _ member)
    rw [run_cons]
    cases call with
    | takeError => exact ⟨processes, size, fun unit unnamed => others unit (later unnamed)⟩
    | request device request =>
      have clean := cleanCall_request switch device request kernel
      refine ⟨processes.trans clean.processes_eq, size.trans clean.size_eq, ?_⟩
      intro unit unnamed
      exact (others unit (later unnamed)).trans
        (clean.others_eq unit (unnamed device request List.mem_cons_self))

/-- Calls leave the last error that one of them reports. -/
theorem error_run {calls : List Call} (untaken : .takeError ∉ calls) :
    (switch.run calls kernel).2.error =
      (switch.refusals kernel.tables.terminals.size calls).getLast?.or kernel.error := by
  induction calls generalizing kernel with
  | nil => rfl
  | cons call rest inductionHypothesis =>
    rw [List.mem_cons, not_or] at untaken
    cases call with
    | takeError => exact absurd rfl untaken.1
    | request device request =>
      have clean := cleanCall_request switch device request kernel
      have last := inductionHypothesis (switch.request device request kernel).2 untaken.2
      rw [clean.size_eq, clean.error_eq] at last
      rw [run_cons, refusals_cons, List.getLast?_append, Option.or_assoc]
      refine last.trans (congrArg _ ?_)
      cases switch.refusal? kernel.tables.terminals.size device request <;> rfl

end Runs

/-- A call of a device either fails cleanly or goes well without touching the error slot, for any
switch and in any system. Which calls fail, and that a failing call does nothing else, is said by
`CleanCall`. Over a run of calls the processes stay as they are, and so does each terminal that no
call names. The slot then holds the last error reported since an error was last taken from it, or
what it held at first where none has been taken. -/
theorem run_fails_cleanly (switch : DeviceSwitch) (calls : List Call) (kernel : Kernel) :
    let terminals := kernel.tables.terminals
    let (answers, after) := switch.run calls kernel
    (∀ device request before,
      let (reply, after) := switch.request device request before
      CleanCall switch device request before reply after) ∧
    after.tables.processes = kernel.tables.processes ∧
    (∀ unit, (∀ device request, .request device request ∈ calls →
        switch.resolve device.major = .terminal → unit ≠ device.minor.toNat) →
      after.tables.terminals.get? unit = terminals.get? unit) ∧
    (.takeError ∉ calls →
      after.error = (switch.refusals terminals.size calls).getLast?.or kernel.error) ∧
    ∀ earlier later, calls = earlier ++ .takeError :: later →
      answers[earlier.length]? = some (.error (switch.run earlier kernel).2.error) ∧
      (.takeError ∉ later →
        after.error = (switch.refusals terminals.size later).getLast?) := by
  obtain ⟨processes, size, others⟩ := tables_run switch kernel calls
  refine ⟨cleanCall_request switch, processes, others, error_run switch kernel, ?_⟩
  rintro earlier later rfl
  rw [run_append, run_cons]
  refine ⟨?_, fun untaken => ?_⟩
  · rw [List.getElem?_append_right (Nat.le_of_eq (length_run switch kernel earlier)), length_run,
      Nat.sub_self]
    rfl
  · have sameSize : (switch.run earlier kernel).2.takeError.2.tables.terminals.size =
        kernel.tables.terminals.size := (tables_run switch kernel earlier).2.1
    have last := error_run switch (switch.run earlier kernel).2.takeError.2 untaken
    rw [sameSize] at last
    exact last.trans (Option.or_none ..)

end DeviceSwitch

end SixthEdition
