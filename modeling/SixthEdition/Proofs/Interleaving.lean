/-
This file proves that a terminal does not mind into how many pieces its bytes are
cut, nor which of its two sides moves first. It holds for every terminal, also
for one whose header does not fit its queues: each operation here ends by writing
the counts anew, and then they are right whatever they were before.

An operation on one side reads nothing of the other side and leaves it as it is,
so operations on different sides can be exchanged, and with them whole runs.
Echo is the one way from the input side to the output side, which is why bytes
that arrive commute with output only on a line that does not echo.
-/

import SixthEdition.Proofs.ForgottenInput
import SixthEdition.Proofs.OutputMap

namespace SixthEdition.Terminal

open Device.Line (operate)

/-! ### A terminal from its parts -/

/-- The parts of a terminal that belong to neither side. -/
structure Fixture where
  wiring : Wiring
  address : UInt16
  state : LineState
  scratch : UInt8

def fixture (terminal : Terminal) : Fixture where
  wiring := terminal.wiring
  address := terminal.header.address
  state := terminal.header.state
  scratch := terminal.header.scratch

/-- Where the counts are those of the queues, nothing is left of a terminal beside its two sides and
what belongs to neither. -/
theorem eq_of_sides {first second : Terminal} (firstCounted : Counted first)
    (secondCounted : Counted second) (input : first.inputSide = second.inputSide)
    (output : first.outputSide = second.outputSide) (rest : first.fixture = second.fixture) :
    first = second := by
  simp only [inputSide, InputSide.mk.injEq] at input
  simp only [outputSide, OutputSide.mk.injEq] at output
  simp only [fixture, wiring, Fixture.mk.injEq, Wiring.mk.injEq, Prod.mk.injEq] at rest
  obtain ⟨raw, canonical, delimiters, modes, erase, kill, speeds⟩ := input
  obtain ⟨waiting, column, -⟩ := output
  obtain ⟨⟨rawBlocks, canonicalBlocks, outputBlocks, device⟩, address, state, scratch⟩ := rest
  have counts : first.refreshCounts = second.refreshCounts := by
    simp only [refreshCounts, raw, canonical, delimiters, modes, erase, kill, speeds, waiting,
      UInt8.toNat_inj.mp column, rawBlocks, canonicalBlocks, outputBlocks, device, address, state,
      scratch]
  exact firstCounted.symm.trans (counts.trans secondCounted)

/-- Whether an action moves bytes. It refreshes the counts then. -/
def Action.moves : Action → Bool
  | .receive _ | .takeOutput | .read _ | .write _ => true
  | _ => false

section Moves

variable (terminal : Terminal) {action : Action} (moves : action.moves)
include moves

theorem counted_perform : Counted (terminal.perform action).2 := by
  cases action with
  | receive typed | takeOutput | write bytes => exact counted_refreshCounts _
  | read room =>
    show Counted (terminal.read room).2
    rw [read]
    split <;> exact counted_refreshCounts _
  | _ => cases moves

theorem fixture_perform : (terminal.perform action).2.fixture = terminal.fixture := by
  rw [fixture, wiring_perform]
  cases action with
  | receive typed =>
    cases echo : terminal.header.modes.has .echo <;> simp only [perform, receive, echo] <;> rfl
  | read room =>
    rw [perform, read]
    split
    · rfl
    · split
      · rw [canonicalize]
        split <;> rfl
      · rfl
  | takeOutput | write bytes => rfl
  | _ => cases moves

end Moves

/-! ### Pieces -/

theorem countUp_countUp (count : UInt8) (first second : Nat) :
    countUp (countUp count first) second = countUp count (first + second) := by
  apply UInt8.toNat_inj.mp
  rw [toNat_countUp, toNat_countUp, toNat_countUp]
  omega

section Pieces

variable (terminal : Terminal) (first second : Bytes)

theorem inputSide_receive_append :
    (terminal.receive (first ++ second)).inputSide =
      ((terminal.receive first).receive second).inputSide := by
  have modes : (terminal.receive first).header.modes = terminal.header.modes :=
    congrArg InputSide.modes (inputSide_receive terminal first)
  have raw : (terminal.receive first).raw = _ :=
    congrArg InputSide.raw (inputSide_receive terminal first)
  have delimiters : (terminal.receive first).header.delimiters = _ :=
    congrArg InputSide.delimiters (inputSide_receive terminal first)
  rw [inputSide_receive, inputSide_receive, inputSide_receive, modes, raw, delimiters,
    List.map_append, List.countP_append, List.append_assoc]
  cases terminal.header.modes.has .raw with
  | false => simp only [Bool.false_eq_true, if_false, countUp_countUp]
  | true => rfl

theorem outputSide_receive_append :
    (terminal.receive (first ++ second)).outputSide =
      ((terminal.receive first).receive second).outputSide := by
  have modes : (terminal.receive first).header.modes = terminal.header.modes :=
    congrArg InputSide.modes (inputSide_receive terminal first)
  rw [outputSide_receive, outputSide_receive, outputSide_receive, modes, List.map_append]
  split
  · exact OutputSide.print_append ..
  · rfl

theorem receive_append :
    terminal.receive (first ++ second) = (terminal.receive first).receive second := by
  refine eq_of_sides (counted_refreshCounts _) (counted_refreshCounts _)
    (inputSide_receive_append terminal first second)
    (outputSide_receive_append terminal first second) ?_
  have received (bytes : Bytes) (line : Terminal) : (line.receive bytes).fixture = line.fixture :=
    have moves : (Action.receive bytes).moves := rfl
    fixture_perform line moves
  rw [received, received, received]

theorem write_append :
    terminal.write (first ++ second) = (terminal.write first).write second := by
  refine eq_of_sides (counted_refreshCounts _) (counted_refreshCounts _) rfl ?_ rfl
  rw [outputSide_write, outputSide_write, outputSide_write, OutputSide.print_append]

end Pieces

/-! ### The two sides -/

/-- Whether an action works on the input side of a line with these modes, and there alone. -/
def Action.onInput (modes : Modes) : Action → Bool
  | .receive _ => ! modes.has .echo
  | .read _ => true
  | _ => false

/-- Whether an action works on the output side alone. -/
def Action.onOutput : Action → Bool
  | .write _ | .takeOutput => true
  | _ => false

section Sides

variable {terminal : Terminal} {modes : Modes} {action input output : Action}

theorem Action.moves_of_onInput (onInput : action.onInput modes) : action.moves := by
  cases action with
  | receive typed | read room => rfl
  | _ => cases onInput

theorem Action.moves_of_onOutput (onOutput : action.onOutput) : action.moves := by
  cases action with
  | write bytes | takeOutput => rfl
  | _ => cases onOutput

theorem Action.onOutput_of_onInput (onInput : action.onInput modes) : action.onOutput = false := by
  cases action with
  | receive typed | read room => rfl
  | _ => cases onInput

theorem Action.onInput_of_onOutput (onOutput : action.onOutput) : action.onInput modes = false := by
  cases action with
  | write bytes | takeOutput => rfl
  | _ => cases onOutput

theorem Action.ne_openLine_of_moves (moves : action.moves) : action ≠ .openLine := by
  rintro rfl
  cases moves

theorem outputSide_perform_of_onInput (onInput : action.onInput terminal.header.modes) :
    (terminal.perform action).2.outputSide = terminal.outputSide := by
  cases action with
  | receive typed =>
    have silent : ¬ terminal.header.modes.has .echo := by
      simpa [Action.onInput] using onInput
    exact (outputSide_receive terminal typed).trans (if_neg silent)
  | read room => exact outputSide_read terminal room
  | _ => cases onInput

theorem inputSide_perform_of_onOutput (onOutput : action.onOutput) :
    (terminal.perform action).2.inputSide = terminal.inputSide := by
  cases action with
  | write bytes | takeOutput => rfl
  | _ => cases onOutput

theorem modes_perform_of_onInput (onInput : action.onInput terminal.header.modes) :
    (terminal.perform action).2.header.modes = terminal.header.modes :=
  congrArg OutputSide.modes (outputSide_perform_of_onInput onInput)

theorem modes_perform_of_onOutput (onOutput : action.onOutput) :
    (terminal.perform action).2.header.modes = terminal.header.modes :=
  congrArg InputSide.modes (inputSide_perform_of_onOutput onOutput)

/-- What an action on the input side gives is for the reader. -/
theorem perform_fst_of_onInput (onInput : action.onInput modes) :
    (terminal.perform action).1 = Action.delivered (action, (terminal.perform action).1) := by
  cases action with
  | receive typed | read room => rfl
  | _ => cases onInput

/-- What an action on the output side gives and leaves there depends on that side alone. -/
theorem output_congr {first second : Terminal} (same : first.outputSide = second.outputSide)
    (onOutput : action.onOutput) :
    (first.perform action).1 = (second.perform action).1 ∧
      (first.perform action).2.outputSide = (second.perform action).2.outputSide := by
  cases action with
  | write bytes =>
    refine ⟨rfl, ?_⟩
    rw [perform, perform, outputSide_write, outputSide_write, same]
  | takeOutput =>
    refine ⟨congrArg OutputSide.output same, ?_⟩
    rw [perform, perform, outputSide_takeOutput, outputSide_takeOutput, same]
  | _ => cases onOutput

/-- Whichever of two operations goes first, each gives the same, and the terminal ends the same. -/
structure Commutes {First Second : Type} (first : Terminal → First × Terminal)
    (second : Terminal → Second × Terminal) (terminal : Terminal) : Prop where
  first_eq : (first (second terminal).2).1 = (first terminal).1
  second_eq : (second (first terminal).2).1 = (second terminal).1
  final_eq : (second (first terminal).2).2 = (first (second terminal).2).2

theorem commutes_perform (onInput : input.onInput terminal.header.modes)
    (onOutput : output.onOutput) : Commutes (perform input) (perform output) terminal := by
  have inputMoves := Action.moves_of_onInput onInput
  have outputMoves := Action.moves_of_onOutput onOutput
  have inputKept : (terminal.perform output).2.inputSide = terminal.inputSide :=
    inputSide_perform_of_onOutput onOutput
  have outputKept := outputSide_perform_of_onInput onInput
  have stillOnInput : input.onInput (terminal.perform output).2.header.modes := by
    rw [modes_perform_of_onOutput onOutput]
    exact onInput
  obtain ⟨taken, outputLeft⟩ := output_congr outputKept onOutput
  obtain ⟨delivered, inputLeft⟩ := Prod.mk.inj
    (inputEffect_congr inputKept (Action.ne_openLine_of_moves inputMoves))
  refine ⟨?_, taken, eq_of_sides (counted_perform _ outputMoves) (counted_perform _ inputMoves)
    ?_ ?_ ?_⟩
  · rw [perform_fst_of_onInput onInput, delivered, ← perform_fst_of_onInput onInput]
  · exact (inputSide_perform_of_onOutput onOutput).trans inputLeft.symm
  · exact outputLeft.trans (outputSide_perform_of_onInput stillOnInput).symm
  · rw [fixture_perform _ outputMoves, fixture_perform _ inputMoves, fixture_perform _ inputMoves,
      fixture_perform _ outputMoves]

end Sides

namespace Commutes

variable {First Second Third : Type} {first : Terminal → First × Terminal}
  {second : Terminal → Second × Terminal} {terminal : Terminal}

theorem symm (commutes : Commutes first second terminal) : Commutes second first terminal :=
  ⟨commutes.second_eq, commutes.first_eq, commutes.final_eq.symm⟩

/-- What is made of the values that the first operation gives plays no part. -/
theorem map (commutes : Commutes first second terminal) (change : First → Third) :
    Commutes (fun line => (change (first line).1, (first line).2)) second terminal :=
  ⟨congrArg change commutes.first_eq, commutes.second_eq, commutes.final_eq⟩

/-- An operation that commutes with each of some actions commutes with their run. -/
theorem run {modes : Modes} {actions : List Action}
    (each : ∀ action ∈ actions, ∀ line : Terminal, line.header.modes = modes →
      Commutes first (perform action) line ∧ (line.perform action).2.header.modes = modes)
    (settled : terminal.header.modes = modes) : Commutes first (run actions) terminal := by
  induction actions generalizing terminal with
  | nil => exact ⟨rfl, rfl, rfl⟩
  | cons action rest inductionHypothesis =>
    obtain ⟨one, others⟩ := List.forall_mem_cons.mp each
    obtain ⟨commutes, stillSettled⟩ := one terminal settled
    have later := inductionHypothesis others stillSettled
    refine ⟨later.first_eq.trans commutes.first_eq, ?_, ?_⟩
    · rw [run_cons, run_cons, commutes.second_eq, commutes.final_eq, later.second_eq]
    · rw [run_cons, run_cons, commutes.final_eq, later.final_eq]

end Commutes

/-! ### Runs -/

/-- A run in which each action works on one side comes to what the input side does first and the
output side afterwards, and on each side it gives what that side gives when it runs alone. -/
theorem run_splits {terminal : Terminal} {modes : Modes} {actions : List Action}
    (oneSided : ∀ action ∈ actions, action.onInput modes ∨ action.onOutput)
    (settled : terminal.header.modes = modes) :
    let inputs := actions.filter (·.onInput modes)
    let outputs := actions.filter (·.onOutput)
    (run actions terminal).2 = (run (inputs ++ outputs) terminal).2 ∧
    (run actions terminal).1.filter (·.1.onInput modes) = (run inputs terminal).1 ∧
    (run actions terminal).1.filter (·.1.onOutput) = (run outputs terminal).1 := by
  induction actions generalizing terminal with
  | nil => exact ⟨rfl, rfl, rfl⟩
  | cons action rest inductionHypothesis =>
    obtain ⟨side, others⟩ := List.forall_mem_cons.mp oneSided
    rcases side with onInput | onOutput
    · have stillSettled : (terminal.perform action).2.header.modes = modes := by
        subst settled
        exact modes_perform_of_onInput onInput
      obtain ⟨final, inputs, outputs⟩ := inductionHypothesis others stillSettled
      have commutes : Commutes (perform action) (run (rest.filter (·.onOutput))) terminal := by
        refine Commutes.run ?_ settled
        rintro other member line rfl
        have onOutput := (List.mem_filter.mp member).2
        exact ⟨commutes_perform onInput onOutput, modes_perform_of_onOutput onOutput⟩
      have notOutput := Action.onOutput_of_onInput onInput
      simp only [run_cons, List.filter_cons, onInput, notOutput, if_true, Bool.false_eq_true,
        if_false, List.cons_append, final, inputs, outputs, commutes.second_eq, and_self]
    · have stillSettled : (terminal.perform action).2.header.modes = modes :=
        (modes_perform_of_onOutput onOutput).trans settled
      obtain ⟨final, inputs, outputs⟩ := inductionHypothesis others stillSettled
      have commutes : Commutes (perform action) (run (rest.filter (·.onInput modes))) terminal := by
        refine Commutes.run ?_ settled
        rintro other member line rfl
        have onInput := (List.mem_filter.mp member).2
        exact ⟨(commutes_perform onInput onOutput).symm, modes_perform_of_onInput onInput⟩
      have notInput : action.onInput modes = false := Action.onInput_of_onOutput onOutput
      simp only [run_cons, List.filter_cons, onOutput, notInput, if_true, Bool.false_eq_true,
        if_false, run_append, final, inputs, outputs, commutes.second_eq, commutes.final_eq,
        and_self]

/-- A terminal does not mind into how many pieces bytes are cut, on either side. Reading commutes
with writing and with the taking of output, and so does what arrives on a line that does not echo:
in both orders each gives the same, and the terminal ends the same. -/
theorem pieces_join_and_sides_commute (terminal : Terminal) :
    (∀ first second,
      terminal.receive (first ++ second) = (terminal.receive first).receive second) ∧
    (∀ offset first second,
      let (reply, middle) := operate (.write offset first) terminal
      let (nextReply, final) := operate (.write offset second) middle
      operate (.write offset (first ++ second)) terminal =
        ({ count := reply.count + nextReply.count }, final)) ∧
    (∀ offset buffer,
      (∀ place bytes, Commutes (operate (.read offset buffer)) (operate (.write place bytes))
        terminal) ∧
      Commutes (operate (.read offset buffer)) takeOutput terminal) ∧
    (terminal.header.modes.has .echo = false → ∀ typed,
      (∀ place bytes, Commutes (perform (.receive typed)) (operate (.write place bytes))
        terminal) ∧
      Commutes (perform (.receive typed)) takeOutput terminal) ∧
    ∀ actions : List Action,
      (∀ action ∈ actions, action.onInput terminal.header.modes ∨ action.onOutput) →
      let inputs := actions.filter (·.onInput terminal.header.modes)
      let outputs := actions.filter (·.onOutput)
      let (trace, final) := run actions terminal
      final = (run (inputs ++ outputs) terminal).2 ∧
      trace.filter (·.1.onInput terminal.header.modes) = (run inputs terminal).1 ∧
      trace.filter (·.1.onOutput) = (run outputs terminal).1 := by
  -- What a program writes is counted without a look at the terminal.
  have write {First : Type} {first : Terminal → First × Terminal} {place : Nat} {bytes : Bytes}
      (commutes : Commutes first (perform (.write bytes)) terminal) :
      Commutes first (operate (.write place bytes)) terminal :=
    (commutes.symm.map fun _ => ({ count := bytes.length } : Device.Reply)).symm
  have read {Second : Type} {second : Terminal → Second × Terminal} (offset : Nat) (buffer : Bytes)
      (commutes : Commutes (perform (.read buffer.length)) second terminal) :
      Commutes (operate (.read offset buffer)) second terminal :=
    commutes.map fun delivered =>
      ({ count := delivered.length, buffer := delivered.overlay buffer } : Device.Reply)
  have taking : Action.takeOutput.onOutput := rfl
  refine ⟨receive_append terminal, ?_, ?_, ?_, fun actions oneSided => run_splits oneSided rfl⟩
  · intro offset first second
    exact Prod.ext (congrArg (fun count => ({ count } : Device.Reply)) List.length_append)
      (write_append terminal first second)
  · intro offset buffer
    exact ⟨fun place bytes => read offset buffer (write (commutes_perform rfl rfl)),
      read offset buffer (commutes_perform rfl taking)⟩
  · intro silent typed
    have onInput : Action.onInput terminal.header.modes (.receive typed) := by
      rw [Action.onInput, silent]
      rfl
    exact ⟨fun place bytes => write (commutes_perform onInput rfl),
      commutes_perform onInput taking⟩

/-- A line that does not echo, with a header that does not fit its queues: what is read and what is
taken in a run are what a run of the one side and a run of the other give. -/
theorem pieces_join_and_sides_commute_without_echo :
    let terminal : Terminal :=
      { header := { Header.fresh ⟨4, 0⟩ with modes := ⟨0o22⟩, delimiters := 254, column := 5 }
        raw := [97, 10], canonical := [120], output := [46] }
    let actions : List Action :=
      [.write [98, 9], .receive [100, 13], .read 1, .takeOutput, .read 4, .write [99], .read 4]
    let (trace, _) := run actions terminal
    terminal.header.modes.has .echo = false ∧
    (∀ action ∈ actions, action.onInput terminal.header.modes ∨ action.onOutput) ∧
    (terminal.receive [13]).takeOutput.1 = [46] ∧
    trace.filter (·.1.onInput terminal.header.modes) =
      [(.receive [100, 13], []), (.read 1, [120]), (.read 4, [97, 10]), (.read 4, [100, 10])] ∧
    trace.filter (·.1.onOutput) =
      [(.write [98, 9], []), (.takeOutput, [46, 98, 32, 32]), (.write [99], [])] := by
  intro terminal actions
  have silent : terminal.header.modes.has .echo = false := by decide
  have oneSided : ∀ action ∈ actions, action.onInput terminal.header.modes ∨ action.onOutput := by
    decide
  obtain ⟨-, -, -, arriving, runs⟩ := pieces_join_and_sides_commute terminal
  obtain ⟨-, commutes⟩ := arriving silent [13]
  obtain ⟨-, inputs, outputs⟩ := runs actions oneSided
  exact ⟨silent, oneSided, commutes.second_eq, inputs.trans (by decide), outputs.trans (by decide)⟩

/-- On a line that echoes, what arrives does not commute with the taking of output: it is taken in
one order only. -/
example : ¬ Commutes (perform (.receive [97])) takeOutput (fresh ⟨4, 0⟩) :=
  fun commutes => absurd commutes.second_eq (by decide)

end SixthEdition.Terminal
