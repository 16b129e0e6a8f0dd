/-
This file proves when the open of kernel memory fails. The open makes one call
and then looks into the error slot, and it takes whatever it finds there for a
failure of that call. Nothing empties the slot before the call, and a call that
goes well leaves it as it was: an error that any earlier call has left there is
reported as a failed open, also where the call of the open cannot fail.

The open fails exactly with its own error, or else with the one that was left
over. It reports its own failures and no others exactly if it has one to report
or finds the slot empty.
-/

import SixthEdition.Proofs.DeviceCalls
import SixthEdition.Proofs.Reading

namespace SixthEdition.KernelReader

open Reading

variable {reader : KernelReader}

/-! ### The slot behind a call -/

/-- The slot behind a request holds the error that the request reports, or else what it held
before. -/
theorem error_requested (number : DeviceNumber) (request : Device.Request) :
    (reader.requested number request).kernel.error =
      (reader.switch.refusal? reader.kernel.tables.terminals.size number request).or
        reader.kernel.error :=
  (DeviceSwitch.cleanCall_request ..).error_eq

theorem size_requested (number : DeviceNumber) (request : Device.Request) :
    (reader.requested number request).kernel.tables.terminals.size =
      reader.kernel.tables.terminals.size :=
  (DeviceSwitch.cleanCall_request ..).size_eq

/-- The error that the call of an open sets: what it leaves in a slot that was empty. -/
def openError? (reader : KernelReader) : Option ErrorNumber :=
  (reader.switch.request device (.openFor .read) { reader.kernel with error := none }).2.error

/-- The device and the number of terminals settle whether the call of an open fails. -/
theorem openError?_eq_refusal? (reader : KernelReader) :
    reader.openError? = reader.switch.refusal? reader.kernel.tables.terminals.size device
      (.openFor .read) :=
  (DeviceSwitch.cleanCall_request ..).error_eq.trans (Option.or_none ..)

/-- The call of an open always goes well at the kernel memory device. -/
theorem openError?_of_memory (memory : reader.switch.resolve Major.memory = .memory) :
    reader.openError? = none := by
  rw [openError?_eq_refusal?, DeviceSwitch.refusal?, show device.major = Major.memory from rfl,
    memory]
  rfl

/-! ### Opening -/

theorem openMemory_fails {code : ErrorNumber}
    (left : reader.openError?.or reader.kernel.error = some code) :
    Fails openMemory reader (.device .opening code)
      { reader.requested device (.openFor .read) with
        kernel := { (reader.requested device (.openFor .read)).kernel with error := none } } := by
  have slot : (reader.requested device (.openFor .read)).kernel.error = some code := by
    rw [error_requested, ← openError?_eq_refusal?, left]
  exact (request_gives_reply device (.openFor .read)).bind_fails (check_fails slot .opening)

theorem openMemory_gives_of_quiet (quiet : reader.openError?.or reader.kernel.error = none) :
    Gives openMemory reader () (reader.requested device (.openFor .read)) := by
  have slot : (reader.requested device (.openFor .read)).kernel.error = none := by
    rw [error_requested, ← openError?_eq_refusal?, quiet]
  exact (request_gives_reply device (.openFor .read)).bind (check_gives_of_quiet slot .opening)

/-- The open looks into the slot once, behind its call. -/
theorem openMemory_run (reader : KernelReader) :
    (openMemory.run reader).1 =
      (match reader.openError?.or reader.kernel.error with
        | some code => .error (.device .opening code)
        | none => .ok ()) ∧
    (openMemory.run reader).2.kernel.error = none := by
  cases left : reader.openError?.or reader.kernel.error with
  | some code =>
    rw [openMemory_fails left]
    exact ⟨rfl, rfl⟩
  | none =>
    rw [openMemory_gives_of_quiet left]
    refine ⟨rfl, ?_⟩
    rw [error_requested, ← openError?_eq_refusal?, left]

theorem openMemory_eq_ok_iff :
    (openMemory.run reader).1 = .ok () ↔
      reader.openError? = none ∧ reader.kernel.error = none := by
  rw [← Option.or_eq_none_iff, (openMemory_run reader).1]
  cases reader.openError?.or reader.kernel.error <;> simp

theorem openMemory_eq_error_iff {fault : ReadFault} :
    (openMemory.run reader).1 = .error fault ↔
      ∃ code, fault = .device .opening code ∧
        (reader.openError? = some code ∨
          reader.openError? = none ∧ reader.kernel.error = some code) := by
  simp only [← Option.or_eq_some_iff, (openMemory_run reader).1]
  cases reader.openError?.or reader.kernel.error <;> simp [eq_comm]

/-- The open reports the failures of its own call and no others exactly if there is one or the
slot is empty. -/
theorem openMemory_reports_own_iff :
    (∀ code, (openMemory.run reader).1 = .error (.device .opening code) ↔
        reader.openError? = some code) ↔
      reader.openError? ≠ none ∨ reader.kernel.error = none := by
  have fails_iff (code : ErrorNumber) :
      (openMemory.run reader).1 = .error (.device .opening code) ↔
        reader.openError? = some code ∨
          reader.openError? = none ∧ reader.kernel.error = some code := by
    simp [openMemory_eq_error_iff]
  simp only [fails_iff]
  constructor
  · intro only
    cases held : reader.kernel.error with
    | none => exact .inr rfl
    | some code =>
      -- With no failure of its own the open would report what was left over.
      refine .inl fun fine => ?_
      have own := (only code).mp (.inr ⟨fine, held⟩)
      rw [fine] at own
      cases own
  · intro clean code
    refine or_iff_left fun ⟨fine, held⟩ => ?_
    rcases clean with failed | empty
    · exact failed fine
    · rw [empty] at held
      cases held

/-- The open of kernel memory, in any system, through any switch and behind any calls, fails
exactly with the error of its own call, or, if that call goes well, with the one it finds in the
slot. So it reports the failures of its own call and no others exactly if there is one or the slot
is empty. At the kernel memory device there is none, and the open succeeds exactly if the slot is
empty. The slot holds the last error reported in a call before, where none has been taken. -/
theorem openMemory_reports_slot (switch : DeviceSwitch) (earlier : List DeviceSwitch.Call)
    (start : Kernel) :
    let reader : KernelReader := { switch, kernel := (switch.run earlier start).2 }
    let result := (openMemory.run reader).1
    (result = .ok () ↔ reader.openError? = none ∧ reader.kernel.error = none) ∧
    (∀ fault, result = .error fault ↔ ∃ code, fault = .device .opening code ∧
      (reader.openError? = some code ∨
        reader.openError? = none ∧ reader.kernel.error = some code)) ∧
    (openMemory.run reader).2.kernel.error = none ∧
    ((∀ code, result = .error (.device .opening code) ↔ reader.openError? = some code) ↔
      reader.openError? ≠ none ∨ reader.kernel.error = none) ∧
    (switch.resolve Major.memory = .memory →
      reader.openError? = none ∧ (result = .ok () ↔ reader.kernel.error = none)) ∧
    (.takeError ∉ earlier → reader.kernel.error =
      (switch.refusals start.tables.terminals.size earlier).getLast?.or start.error) := by
  intro reader result
  refine ⟨openMemory_eq_ok_iff, fun _ => openMemory_eq_error_iff, (openMemory_run reader).2,
    openMemory_reports_own_iff, fun memory => ?_, DeviceSwitch.error_run switch start⟩
  have fine : reader.openError? = none := openError?_of_memory memory
  exact ⟨fine, openMemory_eq_ok_iff.trans (and_iff_right fine)⟩

/-- The open of a number that has no device leaves its error in the slot. The open of kernel memory
behind it reports that error, though its own call goes well. -/
theorem openMemory_fails_after_refused_open :
    let earlier : List DeviceSwitch.Call := [.request ⟨0, 0⟩ (.openFor .read)]
    let reader : KernelReader :=
      { switch := .standard
        kernel := (DeviceSwitch.standard.run earlier { tables := .empty }).2 }
    DeviceSwitch.standard.resolve Major.memory = .memory ∧ reader.openError? = none ∧
    (openMemory.run reader).1 = .error (.device .opening .enxio) ∧
    ¬ ∀ code, ((openMemory.run reader).1 = .error (.device .opening code) ↔
      reader.openError? = some code) := by
  intro earlier reader
  have fine : reader.openError? = none := rfl
  have failed : (openMemory.run reader).1 = .error (.device .opening .enxio) := rfl
  refine ⟨rfl, fine, failed, fun only => ?_⟩
  have reported := (only .enxio).mp failed
  rw [fine] at reported
  cases reported

end SixthEdition.KernelReader
