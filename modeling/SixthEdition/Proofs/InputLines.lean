/-
This file proves that a line which is not in raw mode loses, repeats and
reorders no input. What was typed is cut into lines and each line is edited by
itself; what readers have got, what waits in the canonical queue and what the
raw queue still holds are together exactly that.

The account holds after every step although readers take lines in pieces. A read
works on the first line of the raw queue only when the canonical queue is empty,
so the editing of one line never meets the rest of another. The raw queue and
all that was typed have the same unfinished end, so that what arrives next
completes the same lines in both.
-/

import SixthEdition.Proofs.TerminalRuns

namespace SixthEdition.Terminal

/-! ### What was typed -/

/-- The character that a typed byte stands for: its low seven bits, a carriage return as a newline
on a line that maps it, and a capital as a small letter on a line that folds it. -/
def typedCharacter (modes : Modes) (byte : UInt8) : UInt8 :=
  let seven := UInt8.ofNat (byte.toNat % 128)
  let mapped := if modes.has .mapReturn ∧ seven = 13 then 10 else seven
  if modes.has .foldCase ∧ 65 ≤ mapped ∧ mapped ≤ 90 then mapped + 32 else mapped

/-- The character in the low seven bits of a byte. -/
def lowSeven (byte : UInt8) : UInt8 :=
  UInt8.ofNat (byte.toNat % 128)

theorem sevenBits_eq (byte : UInt8) : sevenBits byte = UInt8.ofNat (byte.toNat % 128) := by
  apply UInt8.toNat_inj.mp
  have small : byte.toNat % 128 < 2 ^ 8 := by omega
  rw [sevenBits, Bytes.toNat_lowSeven, UInt8.toNat_ofNat_of_lt' small]

theorem inputByte_eq (modes : Modes) : modes.inputByte = typedCharacter modes := by
  funext byte
  rw [Modes.inputByte, typedCharacter, sevenBits_eq]
  cases modes.has .mapReturn <;> cases modes.has .foldCase <;>
    simp [carriageReturn, newline, lowerCase]

/-- Puts a character that ends no line in front of text that has been cut. -/
def putBefore (byte : UInt8) : List Bytes × Bytes → List Bytes × Bytes
  | ([], unfinished) => ([], byte :: unfinished)
  | (line :: lines, unfinished) => ((byte :: line) :: lines, unfinished)

/-- Cuts text behind each newline and each end of text: the complete lines, and the unfinished
end. -/
def cut : Bytes → List Bytes × Bytes
  | [] => ([], [])
  | byte :: rest =>
    if byte = 10 ∨ byte = 4 then ([byte] :: (cut rest).1, (cut rest).2)
    else putBefore byte (cut rest)

example : cut [97, 10, 98, 99, 4, 100] = ([[97, 10], [98, 99, 4]], [100]) := rfl

/-- Only the unfinished end of a text matters to the cutting of what follows it. -/
theorem cut_append (text more : Bytes) :
    cut (text ++ more) =
      ((cut text).1 ++ (cut ((cut text).2 ++ more)).1, (cut ((cut text).2 ++ more)).2) := by
  induction text with
  | nil => rfl
  | cons byte rest inductionHypothesis =>
    rw [List.cons_append, cut, cut, inductionHypothesis]
    by_cases ends : byte = 10 ∨ byte = 4
    · rw [if_pos ends, if_pos ends]
      rfl
    · rw [if_neg ends, if_neg ends]
      obtain ⟨lines, unfinished⟩ := cut rest
      cases lines with
      | nil =>
        show putBefore byte (cut (unfinished ++ more)) = cut (byte :: (unfinished ++ more))
        rw [cut, if_neg ends]
      | cons line lines => rfl

/-! ### The first line -/

theorem isDelimiter_iff (byte : UInt8) : isDelimiter byte = true ↔ byte = 10 ∨ byte = 4 := by
  rw [isDelimiter, Bool.or_eq_true, beq_iff_eq, beq_iff_eq, newline, endOfText]

theorem firstLine?_cons (byte : UInt8) (rest : Bytes) :
    firstLine? (byte :: rest) =
      if byte = 10 ∨ byte = 4 then some ([byte], rest)
      else (firstLine? rest).map fun (line, after) => (byte :: line, after) := by
  by_cases ends : byte = 10 ∨ byte = 4
  · have delimiter := (isDelimiter_iff byte).mpr ends
    rw [if_pos ends]
    simp only [firstLine?, List.dropWhile_cons, List.takeWhile_cons, delimiter, Bool.not_true]
    rfl
  · have ordinary : isDelimiter byte = false :=
      Bool.eq_false_iff.mpr (mt (isDelimiter_iff byte).mp ends)
    rw [if_neg ends]
    simp only [firstLine?, List.dropWhile_cons, List.takeWhile_cons, ordinary, Bool.not_false,
      if_true]
    cases rest.dropWhile (! isDelimiter ·) <;> rfl

/-- The first line is the first of the complete lines. -/
theorem cut_eq_of_firstLine? (raw : Bytes) :
    cut raw =
      match firstLine? raw with
      | none => ([], raw)
      | some (line, rest) => (line :: (cut rest).1, (cut rest).2) := by
  induction raw with
  | nil => rfl
  | cons byte rest inductionHypothesis =>
    rw [cut, firstLine?_cons]
    by_cases ends : byte = 10 ∨ byte = 4
    · rw [if_pos ends, if_pos ends]
    · rw [if_neg ends, if_neg ends, inductionHypothesis]
      cases firstLine? rest <;> rfl

/-! ### Editing -/

/-- What one line comes to: an end of text adds nothing, an erase character takes back the last
character kept, a kill character takes back all of them, and any other character is kept. -/
def edited (erase kill : UInt8) (line : Bytes) : Bytes :=
  line.foldl
    (fun kept byte =>
      if byte = 4 then kept
      else if byte = erase then kept.dropLast
      else if byte = kill then []
      else kept ++ [byte])
    []

theorem editLine_eq (erase kill : UInt8) : editLine erase kill = edited erase kill := by
  funext line
  -- The model keeps the latest character first, so that the two passes mirror each other.
  refine (List.foldl_hom List.reverse fun kept byte => ?_).symm
  rw [editStep, endOfText]
  split
  · rfl
  · split
    · exact List.dropLast_reverse
    · split
      · rfl
      · exact List.reverse_cons.symm

/-- What lines come to, each edited by itself. -/
def editedLines (erase kill : UInt8) (lines : List Bytes) : Bytes :=
  lines.flatMap (edited erase kill)

/-! ### The account -/

/-- On a line with given settings, the bytes delivered so far account for the characters that
arrived: what is missing waits in the queues, and in its order. -/
structure Accounted (modes : Modes) (erase kill : UInt8) (arrived delivered : Bytes)
    (line : InputSide) : Prop where
  modes_eq : line.modes = modes
  erase_eq : line.erase = erase
  kill_eq : line.kill = kill
  conserved :
    delivered ++ line.canonical ++ editedLines erase kill (cut line.raw).1 =
      editedLines erase kill (cut arrived).1
  unfinished : (cut line.raw).2 = (cut arrived).2

namespace Accounted

variable {modes : Modes} {erase kill : UInt8} {arrived delivered : Bytes} {terminal : Terminal}

theorem receive (account : Accounted modes erase kill arrived delivered terminal.inputSide)
    (bytes : Bytes) :
    Accounted modes erase kill (arrived ++ bytes.map (typedCharacter modes)) delivered
      (terminal.receive bytes).inputSide := by
  have settled : terminal.header.modes = modes := account.modes_eq
  have conserved : delivered ++ terminal.canonical ++ editedLines erase kill (cut terminal.raw).1 =
      editedLines erase kill (cut arrived).1 := account.conserved
  have unfinished : (cut terminal.raw).2 = (cut arrived).2 := account.unfinished
  rw [inputSide_receive, settled, inputByte_eq]
  refine ⟨account.modes_eq, account.erase_eq, account.kill_eq, ?_, ?_⟩
  · show delivered ++ terminal.canonical ++
        editedLines erase kill (cut (terminal.raw ++ bytes.map (typedCharacter modes))).1 =
      editedLines erase kill (cut (arrived ++ bytes.map (typedCharacter modes))).1
    rw [cut_append, cut_append arrived, unfinished, editedLines, editedLines,
      List.flatMap_append, List.flatMap_append, ← List.append_assoc]
    exact congrArg (· ++ _) conserved
  · show (cut (terminal.raw ++ _)).2 = (cut (arrived ++ _)).2
    rw [cut_append, cut_append arrived, unfinished]

/-- Taking a line into the canonical queue edits the first of the lines that wait. -/
theorem canonicalize (account : Accounted modes erase kill arrived delivered terminal.inputSide)
    (empty : terminal.canonical = []) :
    Accounted modes erase kill arrived delivered terminal.canonicalize.inputSide := by
  have lines := cut_eq_of_firstLine? terminal.raw
  unfold Terminal.canonicalize
  cases first : firstLine? terminal.raw with
  | none => exact account
  | some found =>
    obtain ⟨line, rest⟩ := found
    rw [first] at lines
    have conserved := account.conserved
    have unfinished := account.unfinished
    have erases : terminal.header.erase = erase := account.erase_eq
    have kills : terminal.header.kill = kill := account.kill_eq
    simp only [inputSide, lines, empty, List.append_nil] at conserved unfinished
    refine ⟨account.modes_eq, account.erase_eq, account.kill_eq, ?_, unfinished⟩
    show delivered ++ editLine terminal.header.erase terminal.header.kill line ++
        editedLines erase kill (cut rest).1 = editedLines erase kill (cut arrived).1
    rw [erases, kills, editLine_eq, List.append_assoc]
    exact conserved

/-- What a reader takes from the canonical queue has been delivered. -/
theorem serve (account : Accounted modes erase kill arrived delivered terminal.inputSide)
    (room : Nat) :
    Accounted modes erase kill arrived (delivered ++ terminal.canonical.take room)
      { terminal with canonical := terminal.canonical.drop room }.inputSide := by
  refine ⟨account.modes_eq, account.erase_eq, account.kill_eq, ?_, account.unfinished⟩
  show delivered ++ terminal.canonical.take room ++ terminal.canonical.drop room ++ _ = _
  rw [List.append_assoc delivered, List.take_append_drop]
  exact account.conserved

theorem read (account : Accounted modes erase kill arrived delivered terminal.inputSide)
    (cooked : modes.has .raw = false) (room : Nat) :
    Accounted modes erase kill arrived (delivered ++ (terminal.read room).1)
      (terminal.read room).2.inputSide := by
  have settled : terminal.header.modes = modes := account.modes_eq
  unfold Terminal.read
  rw [settled, cooked, if_neg Bool.false_ne_true]
  by_cases empty : terminal.canonical = []
  · rw [empty]
    exact (account.canonicalize empty).serve room
  · rw [if_neg (mt List.isEmpty_iff.mp empty)]
    exact account.serve room

end Accounted

/-- Whether an action leaves the settings of the line as they are. -/
def Action.keepsSettings : Action → Bool
  | .openLine | .configure _ => false
  | _ => true

theorem Accounted.perform {modes : Modes} {erase kill : UInt8} {arrived given : Bytes}
    {terminal : Terminal} (account : Accounted modes erase kill arrived given terminal.inputSide)
    (cooked : modes.has .raw = false) (action : Action) (keeps : action.keepsSettings) :
    Accounted modes erase kill (arrived ++ action.typed.map (typedCharacter modes))
      (given ++ Action.delivered (action, (terminal.perform action).1))
      (terminal.perform action).2.inputSide := by
  cases action with
  | receive bytes =>
    show Accounted modes erase kill _ (given ++ []) (terminal.receive bytes).inputSide
    rw [List.append_nil]
    exact account.receive bytes
  | read room =>
    show Accounted modes erase kill (arrived ++ []) _ (terminal.read room).2.inputSide
    rw [List.append_nil]
    exact account.read cooked room
  | takeOutput | write bytes | closeLine =>
    -- These leave the input side alone, and nothing arrives or is delivered.
    simpa only [Terminal.perform, inputSide_takeOutput, inputSide_write, inputSide_closeLine,
      Action.typed, Action.delivered, List.map_nil, List.append_nil] using account
  | openLine | configure settings => cases keeps

/-- The account of all that happened so far. -/
def AccountedAfter (modes : Modes) (erase kill : UInt8) (past : List (Action × Bytes))
    (terminal : Terminal) : Prop :=
  Accounted modes erase kill ((typed (past.map Prod.fst)).map (typedCharacter modes))
    (delivered past) terminal.inputSide

theorem AccountedAfter.perform {modes : Modes} {erase kill : UInt8}
    {past : List (Action × Bytes)} {terminal : Terminal} (cooked : modes.has .raw = false)
    (action : Action) (keeps : action.keepsSettings)
    (account : AccountedAfter modes erase kill past terminal) :
    AccountedAfter modes erase kill (past ++ [(action, (terminal.perform action).1)])
      (terminal.perform action).2 := by
  have next := Accounted.perform account cooked action keeps
  rw [AccountedAfter, List.map_append, typed_append, List.map_append, delivered_append]
  simpa only [typed, delivered, List.map_cons, List.map_nil, List.flatMap_singleton] using next

theorem accountedAfter_run {modes : Modes} {erase kill : UInt8} {terminal : Terminal}
    (start : AccountedAfter modes erase kill [] terminal) (cooked : modes.has .raw = false)
    (actions : List Action) (keep : ∀ action ∈ actions, action.keepsSettings) :
    AccountedAfter modes erase kill (run actions terminal).1 (run actions terminal).2 :=
  run_induction (fun action => action.keepsSettings) (AccountedAfter modes erase kill)
    (AccountedAfter.perform cooked) actions keep start

/-- On a line that is not in raw mode and starts with nothing typed, readers get what was typed,
line by line as edited, and nothing else: after any run of typing, reading, writing, taking output
and closing, what has been delivered, with the canonical queue and the edited lines of the raw
queue behind it, is the edited lines of all that was typed, and the unfinished end of the raw
queue is that of all that was typed. -/
theorem run_conserves_input (terminal : Terminal)
    (cooked : terminal.header.modes.has .raw = false)
    (noRaw : terminal.raw = []) (noCanonical : terminal.canonical = [])
    (actions : List Action) (keep : ∀ action ∈ actions, action.keepsSettings) :
    let edit := edited terminal.header.erase terminal.header.kill
    let arrived := (typed actions).map (typedCharacter terminal.header.modes)
    let (trace, final) := run actions terminal
    delivered trace ++ final.canonical ++ (cut final.raw).1.flatMap edit =
      (cut arrived).1.flatMap edit ∧
    (cut final.raw).2 = (cut arrived).2 := by
  have start : AccountedAfter terminal.header.modes terminal.header.erase terminal.header.kill []
      terminal := by
    refine ⟨rfl, rfl, rfl, ?_, ?_⟩
    · rw [inputSide, noRaw, noCanonical]
      rfl
    · rw [inputSide, noRaw]
      rfl
  have account := accountedAfter_run start cooked actions keep
  rw [AccountedAfter, map_fst_run] at account
  exact ⟨account.conserved, account.unfinished⟩

/-- A line read in pieces while the next one arrives, with one character erased. -/
theorem run_conserves_input_read_in_pieces :
    let terminal : Terminal := .fresh ⟨4, 0⟩
    let actions : List Action :=
      [.receive [97, 98, 35, 99, 13, 100], .read 1, .closeLine, .receive [101, 10, 102], .read 0,
        .takeOutput, .read 9]
    let final := (run actions terminal).2
    terminal.header.modes.has .raw = false ∧ terminal.raw = [] ∧ terminal.canonical = [] ∧
    (∀ action ∈ actions, action.keepsSettings) ∧
    delivered (run actions terminal).1 ++ final.canonical ++
      (cut final.raw).1.flatMap (edited 35 64) = [97, 99, 10, 100, 101, 10] ∧
    (cut final.raw).2 = [102] := by
  intro terminal actions final
  have cooked : terminal.header.modes.has .raw = false := by decide
  have keep : ∀ action ∈ actions, action.keepsSettings := by decide
  have arrived : cut ((typed actions).map (typedCharacter terminal.header.modes)) =
      ([[97, 98, 35, 99, 10], [100, 101, 10]], [102]) := by decide
  have lines : [[97, 98, 35, 99, 10], [100, 101, 10]].flatMap (edited 35 64) =
      [97, 99, 10, 100, 101, 10] := by decide
  obtain ⟨conserved, unfinished⟩ := run_conserves_input terminal cooked rfl rfl actions keep
  rw [arrived] at conserved unfinished
  exact ⟨cooked, rfl, rfl, keep, conserved.trans lines, unfinished⟩

end SixthEdition.Terminal
