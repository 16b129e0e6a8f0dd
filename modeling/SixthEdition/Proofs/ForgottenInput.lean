/-
This file proves that setting a line forgets all input that came before. Two
lines that are set alike cannot be told apart by what is read from them, whatever
was typed on them earlier and however different their output is.

What an action gives to a reader, and what it leaves on the input side, depends
on the input side alone. Echo, columns and waiting output never flow back into
it. So two lines with the same input side stay so, action by action.

Opening a line is the exception. It sets the erase and kill characters anew if
the line is not open, and whether it is open is none of the things that setting
the line changes.
-/

import SixthEdition.Proofs.QueueCounts
import SixthEdition.Proofs.TerminalRuns

namespace SixthEdition.Terminal

/-! ### The input side decides -/

/-- A terminal with this input side and nothing else: no output, no state, no counts. -/
def InputSide.bare (side : InputSide) : Terminal where
  header :=
    { modes := side.modes, delimiters := side.delimiters, erase := side.erase,
      kill := side.kill, speeds := side.speeds, device := 0 }
  raw := side.raw
  canonical := side.canonical

/-- What an action gives to a reader, and the input side that it leaves. -/
def inputEffect (action : Action) (terminal : Terminal) : Bytes × InputSide :=
  (Action.delivered (action, (terminal.perform action).1), (terminal.perform action).2.inputSide)

section Bare

variable (terminal : Terminal)

theorem inputSide_canonicalize :
    terminal.canonicalize.inputSide = terminal.inputSide.bare.canonicalize.inputSide := by
  have sameQueue : terminal.inputSide.bare.raw = terminal.raw := rfl
  rw [canonicalize, canonicalize, sameQueue]
  cases firstLine? terminal.raw <;> rfl

/-- A read that is served from the canonical queue. -/
theorem inputEffect_read_of_canonical (room : Nat)
    (canonical : terminal.header.modes.has .raw = false) :
    terminal.inputEffect (.read room) =
      let ready :=
        if terminal.canonical.isEmpty then terminal.canonicalize.inputSide
        else terminal.inputSide
      (ready.canonical.take room, { ready with canonical := ready.canonical.drop room }) := by
  rw [inputEffect, perform, read, if_neg (Bool.eq_false_iff.mp canonical)]
  cases terminal.canonical.isEmpty <;> rfl

theorem inputEffect_read_eq_bare (room : Nat) :
    terminal.inputEffect (.read room) = terminal.inputSide.bare.inputEffect (.read room) := by
  cases mode : terminal.header.modes.has .raw with
  | false =>
    rw [inputEffect_read_of_canonical terminal room mode,
      inputEffect_read_of_canonical terminal.inputSide.bare room mode, inputSide_canonicalize]
    rfl
  | true =>
    have bareMode : terminal.inputSide.bare.header.modes.has .raw = true := mode
    rw [inputEffect, inputEffect, perform, perform, read, read, if_pos mode, if_pos bareMode]
    rfl

theorem inputEffect_eq_bare {action : Action} (notOpen : action ≠ .openLine) :
    terminal.inputEffect action = terminal.inputSide.bare.inputEffect action := by
  cases action with
  | receive typed =>
    refine congrArg (Prod.mk []) ?_
    show (terminal.receive typed).inputSide = (terminal.inputSide.bare.receive typed).inputSide
    rw [inputSide_receive, inputSide_receive]
    rfl
  | read room => exact inputEffect_read_eq_bare terminal room
  | openLine => exact absurd rfl notOpen
  | takeOutput | write bytes | closeLine | configure settings => rfl

end Bare

/-! ### Two lines -/

variable {first second : Terminal}

/-- On two lines with the same input side an action gives a reader the same and leaves the same
input side again. -/
theorem inputEffect_congr (same : first.inputSide = second.inputSide) {action : Action}
    (notOpen : action ≠ .openLine) : first.inputEffect action = second.inputEffect action := by
  rw [inputEffect_eq_bare first notOpen, inputEffect_eq_bare second notOpen, same]

theorem run_congr (actions : List Action) (noneOpens : ∀ action ∈ actions, action ≠ .openLine)
    (same : first.inputSide = second.inputSide) :
    (run actions first).1.map Action.delivered = (run actions second).1.map Action.delivered ∧
      (run actions first).2.inputSide = (run actions second).2.inputSide := by
  induction actions generalizing first second with
  | nil => exact ⟨rfl, same⟩
  | cons action rest inductionHypothesis =>
    obtain ⟨notOpen, laterOpens⟩ := List.forall_mem_cons.mp noneOpens
    obtain ⟨given, kept⟩ := Prod.mk.inj (inputEffect_congr same notOpen)
    obtain ⟨laterGiven, final⟩ := inductionHypothesis laterOpens kept
    rw [run_cons, run_cons, List.map_cons, List.map_cons, given, laterGiven]
    exact ⟨rfl, final⟩

theorem counted_run {terminal : Terminal} (counted : Counted terminal) (actions : List Action) :
    Counted (run actions terminal).2 :=
  @run_induction (fun _ => True) (fun _ reached => Counted reached)
    (fun action _ holds => holds.perform action) actions (fun _ _ => trivial) [] terminal counted

/-! ### What a program sees -/

/-- What programs and kernel memory show of the input on a line. -/
structure InputView where
  raw : Bytes
  canonical : Bytes
  rawCount : Int16
  canonicalCount : Int16
  delimiters : UInt8
  settings : Settings
  deriving DecidableEq

def inputView (terminal : Terminal) : InputView where
  raw := terminal.raw
  canonical := terminal.canonical
  rawCount := terminal.header.rawQueue.count
  canonicalCount := terminal.header.canonicalQueue.count
  delimiters := terminal.header.delimiters
  settings := terminal.settings

/-- Where the counts are those of the queues, the view shows the input side and no more. -/
theorem inputView_of_counted {terminal : Terminal} (counted : Counted terminal) :
    terminal.inputView = terminal.inputSide.bare.refreshCounts.inputView := by
  have refreshed : terminal.refreshCounts.inputView = terminal.inputView :=
    congrArg inputView counted
  -- Written anew, the counts of the input queues come from the input side as well.
  exact refreshed.symm

/-! ### Setting a line -/

theorem settings_configure (settings : Settings) (terminal : Terminal) :
    (terminal.configure settings).settings = settings :=
  congrArg (Settings.mk settings.speeds · settings.modes) (Word.ofBytes_toBytes settings.editing)

theorem counted_configure (settings : Settings) (terminal : Terminal) :
    Counted (terminal.configure settings) :=
  counted_refreshCounts _

/-- After setting a line its whole input side is that of the settings. -/
theorem inputSide_configure_eq (settings : Settings) (first second : Terminal) :
    (first.configure settings).inputSide = (second.configure settings).inputSide :=
  rfl

/-- Setting a line forgets all earlier input. Whatever the states of two lines were, once both are
set alike, no run of the same actions tells them apart by their input as long as it opens neither:
at each step all reads so far have given the same bytes on both, and both show the same queues,
counts and settings. A line has exactly the settings that it has just been given, bits without a
name included, and its waiting output, its column, its state and its device are as before. -/
theorem configure_forgets_input (settings : Settings) (first second : Terminal) :
    (∀ actions : List Action, (∀ action ∈ actions, action ≠ .openLine) →
      ∀ past, past <+: actions →
        let (firstTrace, firstReached) := run past (first.configure settings)
        let (secondTrace, secondReached) := run past (second.configure settings)
        firstTrace.map Action.delivered = secondTrace.map Action.delivered ∧
        firstReached.inputView = secondReached.inputView) ∧
    ∀ terminal : Terminal,
      let after := terminal.configure settings
      after.settings = settings ∧ after.output = terminal.output ∧
      after.header.column = terminal.header.column ∧
      after.header.state = terminal.header.state ∧
      after.header.deviceNumber = terminal.header.deviceNumber := by
  refine ⟨fun actions noneOpens past started => ?_, fun terminal => ?_⟩
  · have pastOpens : ∀ action ∈ past, action ≠ .openLine :=
      fun action member => noneOpens action (started.subset member)
    obtain ⟨given, reached⟩ :=
      run_congr past pastOpens (inputSide_configure_eq settings first second)
    refine ⟨given, ?_⟩
    rw [inputView_of_counted (counted_run (counted_configure settings first) past),
      inputView_of_counted (counted_run (counted_configure settings second) past), reached]
  · exact ⟨settings_configure settings terminal, rfl, rfl, rfl, rfl⟩

/-- A line that has been read in part and one that nobody has used, set to erase at a backspace:
the same is read from both, with a further setting in between. -/
theorem configure_forgets_half_read_line :
    let used : Terminal :=
      { header := { Header.fresh ⟨4, 0⟩ with delimiters := 9, column := 5 }
        raw := [35, 10], canonical := [120], output := [46] }
    let settings : Settings := ⟨0o1111, 0x1508, 0o100030⟩
    let actions : List Action :=
      [.receive [104, 120, 8, 10], .write [9], .read 1, .configure ⟨0, 0, 0o40⟩, .receive [35],
        .closeLine, .read 4]
    (∀ action ∈ actions, action ≠ .openLine) ∧
    (run actions (used.configure settings)).1.map Action.delivered =
      [[], [], [104], [], [], [], [35]] ∧
    (run actions ((fresh ⟨4, 1⟩).configure settings)).1.map Action.delivered =
      [[], [], [104], [], [], [], [35]] := by
  intro used settings actions
  have noneOpens : ∀ action ∈ actions, action ≠ .openLine := by decide
  obtain ⟨alike, -⟩ := configure_forgets_input settings used (fresh ⟨4, 1⟩)
  obtain ⟨given, -⟩ := alike actions noneOpens actions (List.prefix_refl actions)
  have unused : (run actions ((fresh ⟨4, 1⟩).configure settings)).1.map Action.delivered =
      [[], [], [104], [], [], [], [35]] := by decide
  exact ⟨noneOpens, given.trans unused, unused⟩

/-- Opening tells two lines apart: only the one that is not open yet gets the default erase
character, a number sign, in the place of the one that was set. -/
example :
    let settings : Settings := ⟨0, 0x1508, 0⟩
    let actions : List Action := [.openLine, .receive [97, 35, 10], .read 4]
    ((run actions ((fresh ⟨4, 0⟩).openLine.configure settings)).1.map Action.delivered,
        (run actions ((fresh ⟨4, 0⟩).configure settings)).1.map Action.delivered) =
      ([[], [], [97, 35, 10]], [[], [], [10]]) := by
  decide

end SixthEdition.Terminal
