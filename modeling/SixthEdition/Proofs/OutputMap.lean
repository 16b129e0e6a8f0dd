/-
This file proves that a line loses, repeats and reorders no output, and that
each byte is printed in the column where it belongs. All that programs write and
all that is echoed goes through one map, byte by byte. What the line has taken,
with what still waits behind it, is the map folded over these bytes in the order
in which they came.

The fold keeps going over the whole run: it does not start again when the queue
is emptied, because the column stays in the header. That is why it does not
matter into which pieces the bytes were cut, nor when output was taken.
-/

import SixthEdition.Proofs.InputLines

namespace SixthEdition.Terminal

/-! ### The map -/

/-- The character that is printed for a byte on a line that is not in raw mode: its low seven bits,
and a small letter as a capital on a line that folds it. -/
def printedCharacter (modes : Modes) (byte : UInt8) : UInt8 :=
  let seven := UInt8.ofNat (byte.toNat % 128)
  if modes.has .foldCase ∧ 97 ≤ seven ∧ seven ≤ 122 then seven - 32 else seven

/-- The bytes that a character is sent as from a column. -/
def spelling (modes : Modes) (column : Nat) (character : UInt8) : Bytes :=
  if character = 9 ∧ modes.has .expandTabs then List.replicate (8 - column % 8) 32
  else if character = 10 ∧ modes.has .mapReturn then [13, 10]
  else [character]

/-- The column behind a character that starts in a column. There are 256 columns, and the first
follows the last. -/
def columnAfter (column : Nat) (character : UInt8) : Nat :=
  if character = 10 ∨ character = 13 then 0
  else if character = 8 then column - 1
  else if character = 9 then (column / 8 + 1) * 8 % 256
  else if 32 ≤ character then (column + 1) % 256
  else column

/-- Prints one byte behind what has been printed: the bytes sent so far, and the column. In raw mode
a byte loses its high bit and the column stays. -/
def printByte (modes : Modes) (printed : Bytes × Nat) (byte : UInt8) : Bytes × Nat :=
  let (sent, column) := printed
  if modes.has .raw then (sent ++ [UInt8.ofNat (byte.toNat % 128)], column)
  else
    let character := printedCharacter modes byte
    (sent ++ spelling modes column character, columnAfter column character)

/-- All that is sent for some bytes that are printed from a column on, and the last column. -/
def printed (modes : Modes) (start : Nat) (bytes : Bytes) : Bytes × Nat :=
  bytes.foldl (printByte modes) ([], start)

/-- Bytes sent before do not matter to the printing of the next. -/
theorem foldl_printByte (modes : Modes) (sent : Bytes) (column : Nat) (bytes : Bytes) :
    bytes.foldl (printByte modes) (sent, column) =
      (sent ++ (printed modes column bytes).1, (printed modes column bytes).2) := by
  induction bytes generalizing sent column with
  | nil => rw [printed, List.foldl_nil, List.foldl_nil, List.append_nil]
  | cons byte rest inductionHypothesis =>
    have step : printByte modes (sent, column) byte =
        (sent ++ (printByte modes ([], column) byte).1, (printByte modes ([], column) byte).2) := by
      simp only [printByte]
      split <;> rw [List.nil_append]
    rw [printed, List.foldl_cons, List.foldl_cons, step, inductionHypothesis, inductionHypothesis,
      List.append_assoc]

theorem printed_append (modes : Modes) (start : Nat) (bytes more : Bytes) :
    printed modes start (bytes ++ more) =
      ((printed modes start bytes).1 ++ (printed modes (printed modes start bytes).2 more).1,
        (printed modes (printed modes start bytes).2 more).2) := by
  rw [printed, List.foldl_append, ← printed, foldl_printByte]

@[simp] theorem printed_nil (modes : Modes) (start : Nat) : printed modes start [] = ([], start) :=
  rfl

theorem printed_cons {modes : Modes} (cooked : modes.has .raw = false) (start : Nat) (byte : UInt8)
    (rest : Bytes) :
    printed modes start (byte :: rest) =
      (spelling modes start (printedCharacter modes byte) ++
          (printed modes (columnAfter start (printedCharacter modes byte)) rest).1,
        (printed modes (columnAfter start (printedCharacter modes byte)) rest).2) := by
  rw [printed, List.foldl_cons, foldl_printByte, printByte, cooked, if_neg Bool.false_ne_true]
  rfl

/-! ### What a terminal prints -/

theorem toNat_nextStop (column : UInt8) :
    ((column ||| 7) + 1).toNat = (column.toNat / 8 + 1) * 8 % 256 := by
  have stop : ∀ number < 256, number ||| 7 = number / 8 * 8 + 7 := by decide +kernel
  rw [UInt8.toNat_add, UInt8.toNat_or]
  show ((column.toNat ||| 7) + 1) % 2 ^ 8 = _
  rw [stop column.toNat column.toNat_lt]
  omega

theorem toNat_advance (column character : UInt8) :
    (advance column character).toNat = columnAfter column.toNat character := by
  rw [advance, columnAfter, newline, carriageReturn, backspace, tab, space]
  split
  · rfl
  · split
    · exact toNat_countDown column
    · split
      · exact toNat_nextStop column
      · split
        · rw [UInt8.toNat_add]
          rfl
        · rfl

/-- The spaces that stand for a tab end in the column where the tab itself would end. -/
theorem toNat_add_spacesToStop (column : UInt8) :
    (column + UInt8.ofNat (spacesToStop column)).toNat = (column.toNat / 8 + 1) * 8 % 256 := by
  have small : spacesToStop column < 2 ^ 8 := by
    rw [spacesToStop]
    omega
  rw [UInt8.toNat_add, UInt8.toNat_ofNat_of_lt' small, spacesToStop]
  omega

theorem upperCase_sevenBits (modes : Modes) (byte : UInt8) :
    (if modes.has .foldCase then upperCase (sevenBits byte) else sevenBits byte) =
      printedCharacter modes byte := by
  rw [sevenBits_eq, printedCharacter, upperCase]
  cases modes.has .foldCase <;> simp

namespace Carriage

/-- What has been printed when the carriage stands here. -/
def view (carriage : Carriage) : Bytes × Nat :=
  (carriage.sent.reverse, carriage.column.toNat)

theorem view_put (modes : Modes) (carriage : Carriage) (byte : UInt8) :
    (carriage.put modes byte).view = printByte modes carriage.view byte := by
  obtain ⟨column, sent⟩ := carriage
  have folded := upperCase_sevenBits modes byte
  simp only [put, printByte, view]
  by_cases raw : modes.has .raw
  · rw [if_pos raw, if_pos raw, sevenBits_eq, List.reverse_cons]
  · rw [if_neg raw, if_neg raw, folded, spelling, tab, newline]
    by_cases expanded : printedCharacter modes byte = 9 ∧ modes.has .expandTabs
    · rw [if_pos expanded, if_pos expanded, expanded.1]
      simp only [List.reverse_append, List.reverse_replicate, toNat_add_spacesToStop]
      rfl
    · rw [if_neg expanded, if_neg expanded]
      by_cases returned : printedCharacter modes byte = 10 ∧ modes.has .mapReturn
      · rw [if_pos returned, if_pos returned, returned.1, List.reverse_cons, List.reverse_cons,
          List.append_assoc]
        rfl
      · rw [if_neg returned, if_neg returned, List.reverse_cons, toNat_advance]

theorem view_putAll (modes : Modes) (carriage : Carriage) (bytes : Bytes) :
    (carriage.putAll modes bytes).view = bytes.foldl (printByte modes) carriage.view :=
  (List.foldl_hom view fun carriage byte => (view_put modes carriage byte).symm).symm

end Carriage

/-! ### The output side -/

/-- The parts of a terminal that output passes through, without the counts that are shown. -/
structure OutputSide where
  output : Bytes
  column : Nat
  modes : Modes
  deriving DecidableEq

def outputSide (terminal : Terminal) : OutputSide where
  output := terminal.output
  column := terminal.header.column.toNat
  modes := terminal.header.modes

/-- The output side after some bytes have been printed. -/
def OutputSide.print (line : OutputSide) (bytes : Bytes) : OutputSide where
  output := line.output ++ (printed line.modes line.column bytes).1
  column := (printed line.modes line.column bytes).2
  modes := line.modes

theorem OutputSide.print_nil (line : OutputSide) : line.print [] = line := by
  rw [print, printed_nil, List.append_nil]

/-- Into how many pieces bytes are cut does not matter to their printing. -/
theorem OutputSide.print_append (line : OutputSide) (bytes more : Bytes) :
    line.print (bytes ++ more) = (line.print bytes).print more := by
  simp only [print, printed_append, List.append_assoc]

section Frame

variable (terminal : Terminal)

theorem outputSide_print (bytes : Bytes) :
    (terminal.print bytes).outputSide = terminal.outputSide.print bytes := by
  have seen := Carriage.view_putAll terminal.header.modes ⟨terminal.header.column, []⟩ bytes
  obtain ⟨sent, column⟩ := Prod.mk.inj seen
  rw [outputSide, OutputSide.mk.injEq]
  exact ⟨congrArg (terminal.output ++ ·) sent, column, rfl⟩

@[simp] theorem outputSide_write (bytes : Bytes) :
    (terminal.write bytes).outputSide = terminal.outputSide.print bytes :=
  outputSide_print terminal bytes

/-- What is typed is printed as it counts, if it is echoed at all. -/
theorem outputSide_receive (bytes : Bytes) :
    (terminal.receive bytes).outputSide =
      if terminal.header.modes.has .echo then
        terminal.outputSide.print (bytes.map (typedCharacter terminal.header.modes))
      else terminal.outputSide := by
  rw [← inputByte_eq]
  by_cases echo : terminal.header.modes.has .echo
  · rw [receive, if_pos echo, if_pos echo]
    exact outputSide_print _ _
  · rw [receive, if_neg echo, if_neg echo]
    rfl

@[simp] theorem outputSide_canonicalize :
    terminal.canonicalize.outputSide = terminal.outputSide := by
  rw [canonicalize]
  split <;> rfl

@[simp] theorem outputSide_read (room : Nat) :
    (terminal.read room).2.outputSide = terminal.outputSide := by
  rw [read]
  split
  · rfl
  · cases terminal.canonical.isEmpty
    · rfl
    · exact outputSide_canonicalize terminal

@[simp] theorem outputSide_openLine : terminal.openLine.outputSide = terminal.outputSide := by
  rw [openLine]
  cases terminal.isOpen <;> rfl

@[simp] theorem outputSide_closeLine : terminal.closeLine.outputSide = terminal.outputSide :=
  rfl

@[simp] theorem outputSide_takeOutput :
    terminal.takeOutput.2.outputSide = { terminal.outputSide with output := [] } :=
  rfl

theorem outputSide_run_write (chunks : List Bytes) :
    (run (chunks.map .write) terminal).2.outputSide =
      terminal.outputSide.print chunks.flatten := by
  induction chunks generalizing terminal with
  | nil => exact (OutputSide.print_nil _).symm
  | cons chunk rest inductionHypothesis =>
    rw [List.map_cons, run_cons, inductionHypothesis, List.flatten_cons, OutputSide.print_append]
    exact congrArg (·.print rest.flatten) (outputSide_write terminal chunk)

end Frame

/-! ### What was given to print and what was taken -/

/-- The bytes that an action gives a line to print: those written, and those typed if the line
echoes them. -/
def Action.emitted (modes : Modes) : Action → Bytes
  | .write bytes => bytes
  | .receive bytes => if modes.has .echo then bytes.map (typedCharacter modes) else []
  | _ => []

/-- The bytes that the line takes in an action that gave some bytes. -/
def Action.taken : Action × Bytes → Bytes
  | (.takeOutput, bytes) => bytes
  | _ => []

def emitted (modes : Modes) (actions : List Action) : Bytes :=
  actions.flatMap (Action.emitted modes)

def taken (trace : List (Action × Bytes)) : Bytes :=
  trace.flatMap Action.taken

theorem emitted_append (modes : Modes) (past more : List Action) :
    emitted modes (past ++ more) = emitted modes past ++ emitted modes more :=
  List.flatMap_append

theorem taken_append (past more : List (Action × Bytes)) :
    taken (past ++ more) = taken past ++ taken more :=
  List.flatMap_append

/-- Whether an action leaves the modes of the line as they are. -/
def Action.keepsModes : Action → Bool
  | .configure _ => false
  | _ => true

/-- On a line with given modes, what has been taken and what waits are together what is sent for
the bytes that were given to print, from the column in which the line started. -/
structure SentFor (modes : Modes) (start : Nat) (given taken : Bytes) (line : OutputSide) :
    Prop where
  modes_eq : line.modes = modes
  conserved : printed modes start given = (taken ++ line.output, line.column)

namespace SentFor

variable {modes : Modes} {start : Nat} {given taken : Bytes} {line : OutputSide}

theorem print (sent : SentFor modes start given taken line) (bytes : Bytes) :
    SentFor modes start (given ++ bytes) taken (line.print bytes) := by
  refine ⟨sent.modes_eq, ?_⟩
  rw [printed_append, sent.conserved, OutputSide.print, sent.modes_eq, List.append_assoc]

theorem take (sent : SentFor modes start given taken line) :
    SentFor modes start given (taken ++ line.output) { line with output := [] } := by
  refine ⟨sent.modes_eq, ?_⟩
  rw [sent.conserved, List.append_nil]

theorem perform {terminal : Terminal} (sent : SentFor modes start given taken terminal.outputSide)
    (action : Action) (keeps : action.keepsModes) :
    SentFor modes start (given ++ action.emitted modes)
      (taken ++ Action.taken (action, (terminal.perform action).1))
      (terminal.perform action).2.outputSide := by
  have settled : terminal.header.modes = modes := sent.modes_eq
  cases action with
  | receive bytes =>
    show SentFor modes start (given ++ if modes.has .echo then _ else []) (taken ++ [])
      (terminal.receive bytes).outputSide
    rw [outputSide_receive, settled, List.append_nil]
    split
    · exact sent.print _
    · rw [List.append_nil]
      exact sent
  | write bytes =>
    show SentFor modes start (given ++ bytes) (taken ++ []) (terminal.write bytes).outputSide
    rw [outputSide_write, List.append_nil]
    exact sent.print bytes
  | takeOutput =>
    show SentFor modes start (given ++ []) (taken ++ terminal.output)
      terminal.takeOutput.2.outputSide
    rw [outputSide_takeOutput, List.append_nil]
    exact sent.take
  | read room | openLine | closeLine =>
    -- These leave the output side alone, and nothing is given to print or taken.
    simpa only [Terminal.perform, outputSide_read, outputSide_openLine, outputSide_closeLine,
      Action.emitted, Action.taken, List.append_nil] using sent
  | configure settings => cases keeps

end SentFor

/-- What has been sent for all that happened so far. -/
def SentAfter (modes : Modes) (start : Nat) (past : List (Action × Bytes))
    (terminal : Terminal) : Prop :=
  SentFor modes start (emitted modes (past.map Prod.fst)) (taken past) terminal.outputSide

theorem SentAfter.perform {modes : Modes} {start : Nat} {past : List (Action × Bytes)}
    {terminal : Terminal} (action : Action) (keeps : action.keepsModes)
    (sent : SentAfter modes start past terminal) :
    SentAfter modes start (past ++ [(action, (terminal.perform action).1)])
      (terminal.perform action).2 := by
  have next := SentFor.perform sent action keeps
  rw [SentAfter, List.map_append, emitted_append, taken_append]
  simpa only [emitted, taken, List.map_cons, List.map_nil, List.flatMap_singleton] using next

theorem printed_emitted_of_run {terminal : Terminal} (nothingWaits : terminal.output = [])
    {actions : List Action} (keep : ∀ action ∈ actions, action.keepsModes) :
    printed terminal.header.modes terminal.header.column.toNat
        (emitted terminal.header.modes actions) =
      (taken (run actions terminal).1 ++ (run actions terminal).2.output,
        (run actions terminal).2.header.column.toNat) := by
  have start : SentAfter terminal.header.modes terminal.header.column.toNat [] terminal := by
    refine ⟨rfl, ?_⟩
    rw [outputSide, nothingWaits]
    rfl
  have sent := run_induction (fun action => action.keepsModes)
    (SentAfter terminal.header.modes terminal.header.column.toNat) SentAfter.perform actions keep
    start
  rw [List.nil_append, SentAfter, map_fst_run] at sent
  exact sent.conserved

/-- On a line on which no output waits, what is taken in a run and what then still waits are what
the output map makes of all that was written and echoed, in its order and from the column in which
the line stood; and the line stands in the column where the map ends. So runs that give the line
the same bytes to print send the same, however these are cut and whenever output is taken. -/
theorem run_conserves_output (terminal : Terminal) (nothingWaits : terminal.output = [])
    (actions : List Action) (keep : ∀ action ∈ actions, action.keepsModes) :
    let modes := terminal.header.modes
    let (trace, final) := run actions terminal
    printed modes terminal.header.column.toNat (emitted modes actions) =
      (taken trace ++ final.output, final.header.column.toNat) ∧
    ∀ others : List Action, (∀ action ∈ others, action.keepsModes) →
      emitted modes others = emitted modes actions →
      let (otherTrace, otherFinal) := run others terminal
      taken otherTrace ++ otherFinal.output = taken trace ++ final.output ∧
        otherFinal.header.column = final.header.column := by
  refine ⟨printed_emitted_of_run nothingWaits keep, ?_⟩
  intro others othersKeep same
  have equal := (printed_emitted_of_run nothingWaits othersKeep).symm.trans
    ((congrArg (printed _ _) same).trans (printed_emitted_of_run nothingWaits keep))
  obtain ⟨sent, column⟩ := Prod.mk.inj equal
  exact ⟨sent, UInt8.toNat_inj.mp column⟩

/-- Output that is taken in the middle of a line, with a tab on either side and an echo. -/
theorem run_conserves_output_across_tabs :
    let terminal : Terminal :=
      { header := { Header.fresh ⟨4, 0⟩ with modes := ⟨0o32⟩, column := 6 } }
    let actions : List Action :=
      [.receive [97, 9], .takeOutput, .write [98], .read 4, .write [9, 99, 10]]
    let (trace, final) := run actions terminal
    terminal.output = [] ∧ (∀ action ∈ actions, action.keepsModes) ∧
    taken trace ++ final.output =
      [97, 32, 98, 32, 32, 32, 32, 32, 32, 32, 99, 13, 10] ∧
    final.header.column = 0 := by
  intro terminal actions
  have keep : ∀ action ∈ actions, action.keepsModes := by decide
  obtain ⟨conserved, -⟩ := run_conserves_output terminal rfl actions keep
  have mapped : printed terminal.header.modes terminal.header.column.toNat
      (emitted terminal.header.modes actions) =
        ([97, 32, 98, 32, 32, 32, 32, 32, 32, 32, 99, 13, 10], 0) := by decide
  obtain ⟨sent, column⟩ := Prod.mk.inj (conserved.symm.trans mapped)
  exact ⟨rfl, keep, sent, UInt8.toNat_inj.mp column⟩

end SixthEdition.Terminal
