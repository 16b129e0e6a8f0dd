/-
This file holds what is common to all runs of a terminal: how the trace of a run
is put together, what was typed and what was delivered in it, and the induction
over its actions. It also says which parts of a terminal the bookkeeping of the
operations leaves alone.
-/

import SixthEdition.Terminal.Action

namespace SixthEdition.Terminal

/-! ### Runs -/

@[simp] theorem run_nil (terminal : Terminal) : run [] terminal = ([], terminal) :=
  rfl

@[simp] theorem run_cons (action : Action) (rest : List Action) (terminal : Terminal) :
    run (action :: rest) terminal =
      ((action, (terminal.perform action).1) :: (run rest (terminal.perform action).2).1,
        (run rest (terminal.perform action).2).2) :=
  rfl

theorem run_append (earlier later : List Action) (terminal : Terminal) :
    run (earlier ++ later) terminal =
      ((run earlier terminal).1 ++ (run later (run earlier terminal).2).1,
        (run later (run earlier terminal).2).2) := by
  induction earlier generalizing terminal with
  | nil => rfl
  | cons action rest inductionHypothesis =>
    rw [List.cons_append, run_cons, inductionHypothesis, run_cons, List.cons_append]

/-- The trace of a run names its actions in order. -/
theorem map_fst_run (actions : List Action) (terminal : Terminal) :
    (run actions terminal).1.map Prod.fst = actions := by
  induction actions generalizing terminal with
  | nil => rfl
  | cons action rest inductionHypothesis =>
    rw [run_cons, List.map_cons, inductionHypothesis]

/-- What each allowed action preserves holds after a run of such actions. The property may look
at the trace so far, which an action extends at its end. -/
theorem run_induction (Allowed : Action → Prop) (Holds : List (Action × Bytes) → Terminal → Prop)
    (step : ∀ {past terminal} (action : Action), Allowed action → Holds past terminal →
      Holds (past ++ [(action, (terminal.perform action).1)]) (terminal.perform action).2)
    (actions : List Action) (allowed : ∀ action ∈ actions, Allowed action)
    {past : List (Action × Bytes)} {terminal : Terminal} (start : Holds past terminal) :
    Holds (past ++ (run actions terminal).1) (run actions terminal).2 := by
  induction actions generalizing past terminal with
  | nil =>
    rw [run_nil, List.append_nil]
    exact start
  | cons action rest inductionHypothesis =>
    obtain ⟨first, later⟩ := List.forall_mem_cons.mp allowed
    have final := inductionHypothesis later (step action first start)
    rw [List.append_assoc, List.singleton_append] at final
    rw [run_cons]
    exact final

/-! ### What went in and what came out -/

/-- The bytes that arrive in an action. -/
def Action.typed : Action → Bytes
  | .receive bytes => bytes
  | _ => []

/-- The bytes that a reader gets from an action that gave some bytes. -/
def Action.delivered : Action × Bytes → Bytes
  | (.read _, bytes) => bytes
  | _ => []

def typed (actions : List Action) : Bytes :=
  actions.flatMap Action.typed

def delivered (trace : List (Action × Bytes)) : Bytes :=
  trace.flatMap Action.delivered

theorem typed_append (past more : List Action) : typed (past ++ more) = typed past ++ typed more :=
  List.flatMap_append

theorem delivered_append (past more : List (Action × Bytes)) :
    delivered (past ++ more) = delivered past ++ delivered more :=
  List.flatMap_append

/-! ### The input side -/

/-- The parts of a terminal that input passes through, without the counts that are shown. -/
structure InputSide where
  raw : Bytes
  canonical : Bytes
  delimiters : UInt8
  modes : Modes
  erase : UInt8
  kill : UInt8
  speeds : UInt16
  deriving DecidableEq

def inputSide (terminal : Terminal) : InputSide where
  raw := terminal.raw
  canonical := terminal.canonical
  delimiters := terminal.header.delimiters
  modes := terminal.header.modes
  erase := terminal.header.erase
  kill := terminal.header.kill
  speeds := terminal.header.speeds

section Frame

variable (terminal : Terminal)

@[simp] theorem inputSide_write (bytes : Bytes) :
    (terminal.write bytes).inputSide = terminal.inputSide :=
  rfl

@[simp] theorem inputSide_takeOutput : terminal.takeOutput.2.inputSide = terminal.inputSide :=
  rfl

@[simp] theorem inputSide_closeLine : terminal.closeLine.inputSide = terminal.inputSide :=
  rfl

/-- Echo or not, what arrives joins the raw queue character by character. -/
theorem inputSide_receive (bytes : Bytes) :
    (terminal.receive bytes).inputSide =
      { terminal.inputSide with
        raw := terminal.raw ++ bytes.map terminal.header.modes.inputByte
        delimiters :=
          if terminal.header.modes.has .raw then terminal.header.delimiters
          else countUp terminal.header.delimiters
            ((bytes.map terminal.header.modes.inputByte).countP isDelimiter) } := by
  cases echo : terminal.header.modes.has .echo <;> simp only [receive, echo] <;> rfl

end Frame

end SixthEdition.Terminal
