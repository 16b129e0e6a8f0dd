/-
This file proves that the options of a line change how its output is spelled and
nothing else. Whether a line expands tabs, sends a carriage return in front of
each newline, or prints capitals only, it ends in the column in which it would
end with none of these set, and each option respells characters that no other
one touches.

The columns agree although a tab is printed in two ways. A tab that is sent as it
is goes to the next multiple of eight in one step. A tab that is expanded goes
there space by space, each printed through the same map as any other character.
That recursion is one call deep: a space is never a tab, under any mode.
-/

import SixthEdition.Proofs.OutputMap

namespace SixthEdition.Terminal

/-! ### The options -/

/-- The modes with the options on output off: no tab is expanded, no newline mapped and no letter
folded. -/
def Modes.withoutOptions (modes : Modes) : Modes :=
  ⟨modes.bits &&& ~~~(0o2 ||| 0o4 ||| 0o20)⟩

namespace Modes

variable (modes : Modes)

/-- Of a mask, only the bits that are no option can be set. -/
theorem has_withoutOptions (mask : Modes) :
    modes.withoutOptions.has mask =
      (modes.bits &&& (~~~(0o2 ||| 0o4 ||| 0o20) &&& mask.bits) == mask.bits) := by
  rw [has, withoutOptions, UInt16.and_assoc]

theorem has_withoutOptions_eq_false {mask : Modes}
    (isOption : ~~~(0o2 ||| 0o4 ||| 0o20) &&& mask.bits = 0) (notEmpty : mask.bits ≠ 0) :
    modes.withoutOptions.has mask = false := by
  rw [has_withoutOptions, isOption, UInt16.and_zero]
  exact beq_eq_false_iff_ne.mpr notEmpty.symm

theorem raw_withoutOptions : modes.withoutOptions.has .raw = modes.has .raw :=
  has_withoutOptions modes .raw

theorem expandTabs_withoutOptions : modes.withoutOptions.has .expandTabs = false :=
  has_withoutOptions_eq_false modes (by decide) (by decide)

theorem foldCase_withoutOptions : modes.withoutOptions.has .foldCase = false :=
  has_withoutOptions_eq_false modes (by decide) (by decide)

theorem mapReturn_withoutOptions : modes.withoutOptions.has .mapReturn = false :=
  has_withoutOptions_eq_false modes (by decide) (by decide)

end Modes

/-! ### Spelling -/

/-- What a character is sent as from a column. Each option has characters of its own: tabs, newlines
and small letters. -/
def respelled (modes : Modes) (column : Nat) (character : UInt8) : Bytes :=
  if character = 9 then
    if modes.has .expandTabs then List.replicate (8 - column % 8) 32 else [9]
  else if character = 10 then
    if modes.has .mapReturn then [13, 10] else [10]
  else if 97 ≤ character ∧ character ≤ 122 then
    if modes.has .foldCase then [character - 32] else [character]
  else [character]

theorem printedCharacter_eq (modes : Modes) (byte : UInt8) :
    printedCharacter modes byte =
      if modes.has .foldCase ∧ 97 ≤ lowSeven byte ∧ lowSeven byte ≤ 122 then lowSeven byte - 32
      else lowSeven byte :=
  rfl

/-- Neither a letter nor its capital is a control character. -/
theorem space_le_capital {character : UInt8} (small : 97 ≤ character ∧ character ≤ 122) :
    32 ≤ character ∧ 32 ≤ character - 32 := by
  have bounds : 97 ≤ character.toNat := small.1
  have capital : (character - 32).toNat = character.toNat - 32 :=
    UInt8.toNat_sub_of_le character 32 (UInt8.le_iff_toNat_le.mpr (Nat.le_trans (by decide) bounds))
  refine ⟨UInt8.le_iff_toNat_le.mpr (Nat.le_trans (by decide) bounds), ?_⟩
  rw [UInt8.le_iff_toNat_le, capital]
  exact Nat.le_sub_of_add_le (Nat.le_trans (by decide) bounds)

theorem ne_of_space_le {character control : UInt8} (visible : 32 ≤ character)
    (below : control < 32) : character ≠ control := by
  rintro rfl
  exact absurd visible (UInt8.not_le.mpr below)

/-- No option changes how a character is sent that is no control character. -/
theorem spelling_of_space_le (modes : Modes) (column : Nat) {character : UInt8}
    (visible : 32 ≤ character) : spelling modes column character = [character] := by
  rw [spelling, if_neg fun expanded => ne_of_space_le visible (by decide) expanded.1,
    if_neg fun returned => ne_of_space_le visible (by decide) returned.1]

theorem columnAfter_of_space_le (column : Nat) {character : UInt8} (visible : 32 ≤ character) :
    columnAfter column character = (column + 1) % 256 := by
  have notControl (control : UInt8) (below : control < 32) : character ≠ control :=
    ne_of_space_le visible below
  rw [columnAfter, if_neg (not_or.mpr ⟨notControl 10 (by decide), notControl 13 (by decide)⟩),
    if_neg (notControl 8 (by decide)), if_neg (notControl 9 (by decide)), if_pos visible]

theorem spelling_eq_respelled (modes : Modes) (column : Nat) (byte : UInt8) :
    spelling modes column (printedCharacter modes byte) =
      respelled modes column (lowSeven byte) := by
  rw [printedCharacter_eq, respelled]
  generalize lowSeven byte = seven
  by_cases small : 97 ≤ seven ∧ seven ≤ 122
  · obtain ⟨visible, capitalVisible⟩ := space_le_capital small
    rw [if_neg (ne_of_space_le visible (by decide)), if_neg (ne_of_space_le visible (by decide)),
      if_pos small]
    by_cases folds : modes.has .foldCase
    · rw [if_pos ⟨folds, small⟩, if_pos folds, spelling_of_space_le modes column capitalVisible]
    · rw [if_neg fun folded => folds folded.1, if_neg folds,
        spelling_of_space_le modes column visible]
  · rw [if_neg fun folded => small folded.2, if_neg small, spelling]
    by_cases isTab : seven = 9
    · subst isTab
      cases modes.has .expandTabs <;> rfl
    · rw [if_neg fun expanded => isTab expanded.1, if_neg isTab]
      by_cases isNewline : seven = 10
      · subst isNewline
        cases modes.has .mapReturn <;> rfl
      · rw [if_neg fun returned => isNewline returned.1, if_neg isNewline]

/-- A capital takes as much room as its small letter. -/
theorem columnAfter_printedCharacter (modes : Modes) (column : Nat) (byte : UInt8) :
    columnAfter column (printedCharacter modes byte) = columnAfter column (lowSeven byte) := by
  rw [printedCharacter_eq]
  split
  case isTrue folded =>
    obtain ⟨visible, capitalVisible⟩ := space_le_capital folded.2
    rw [columnAfter_of_space_le column visible, columnAfter_of_space_le column capitalVisible]
  case isFalse => rfl

/-- With the options off, every character is sent as it is. -/
theorem respelled_withoutOptions (modes : Modes) (column : Nat) (character : UInt8) :
    respelled modes.withoutOptions column character = [character] := by
  simp only [respelled, Modes.expandTabs_withoutOptions, Modes.foldCase_withoutOptions,
    Modes.mapReturn_withoutOptions, Bool.false_eq_true, if_false, ite_self]
  split
  case isTrue isTab => rw [isTab]
  case isFalse =>
    split
    case isTrue isNewline => rw [isNewline]
    case isFalse => rfl

section Plain

variable {modes : Modes} (cooked : modes.has .raw = false) (column : Nat)
include cooked

theorem printed_withoutOptions_cons (byte : UInt8) (rest : Bytes) :
    printed modes.withoutOptions column (byte :: rest) =
      (lowSeven byte :: (printed modes.withoutOptions (columnAfter column (lowSeven byte)) rest).1,
        (printed modes.withoutOptions (columnAfter column (lowSeven byte)) rest).2) := by
  have plainCooked : modes.withoutOptions.has .raw = false := by
    rw [Modes.raw_withoutOptions, cooked]
  rw [printed_cons plainCooked, spelling_eq_respelled, columnAfter_printedCharacter,
    respelled_withoutOptions]
  rfl

theorem printed_withoutOptions_fst (bytes : Bytes) :
    (printed modes.withoutOptions column bytes).1 = bytes.map lowSeven := by
  induction bytes generalizing column with
  | nil => rfl
  | cons byte rest inductionHypothesis =>
    rw [printed_withoutOptions_cons cooked, inductionHypothesis, List.map_cons]

/-- The options do not move the carriage. -/
theorem printed_withoutOptions_snd (bytes : Bytes) :
    (printed modes.withoutOptions column bytes).2 = (printed modes column bytes).2 := by
  induction bytes generalizing column with
  | nil => rfl
  | cons byte rest inductionHypothesis =>
    rw [printed_withoutOptions_cons cooked, printed_cons cooked, columnAfter_printedCharacter,
      inductionHypothesis]

/-- Each character of the plain output is respelled from the column in which the plain output has
it. -/
theorem printed_fst_eq_respelled (bytes : Bytes) :
    (printed modes column bytes).1 =
      (bytes.mapIdx fun position byte =>
        respelled modes (printed modes.withoutOptions column (bytes.take position)).2
          (lowSeven byte)).flatten := by
  induction bytes generalizing column with
  | nil => rfl
  | cons byte rest inductionHypothesis =>
    have later (position : Nat) :
        (printed modes.withoutOptions column ((byte :: rest).take (position + 1))).2 =
          (printed modes.withoutOptions (columnAfter column (lowSeven byte))
            (rest.take position)).2 := by
      rw [List.take_succ_cons, printed_withoutOptions_cons cooked]
    rw [printed_cons cooked, spelling_eq_respelled, columnAfter_printedCharacter,
      inductionHypothesis, List.mapIdx_cons, List.flatten_cons]
    simp only [later]
    rfl

end Plain

/-! ### The expansion of a tab -/

namespace Carriage

/-- Prints one byte in the way in which a tab is expanded space by space, each space printed like
any other character, with at most `depth` calls inside one another. -/
def putWithin (modes : Modes) : Nat → Carriage → UInt8 → Option Carriage
  | 0, _, _ => none
  | depth + 1, carriage, byte =>
    let byte := sevenBits byte
    if modes.has .raw then some { carriage with sent := byte :: carriage.sent }
    else
      let byte := if modes.has .foldCase then upperCase byte else byte
      if byte = tab ∧ modes.has .expandTabs then
        (List.replicate (spacesToStop carriage.column) space).foldlM (putWithin modes depth)
          carriage
      else if byte = newline ∧ modes.has .mapReturn then
        some ⟨0, newline :: carriageReturn :: carriage.sent⟩
      else some ⟨advance carriage.column byte, byte :: carriage.sent⟩

section Cooked

variable {modes : Modes} (cooked : modes.has .raw = false) (carriage : Carriage)
include cooked

/-- No mode makes anything else of a space, so that printing one calls for no further printing. -/
theorem putWithin_space (depth : Nat) :
    putWithin modes (depth + 1) carriage space =
      some ⟨carriage.column + 1, space :: carriage.sent⟩ := by
  have unfolded : (if modes.has .foldCase then upperCase (sevenBits space) else sevenBits space) =
      space := by
    cases modes.has .foldCase <;> rfl
  simp only [putWithin, cooked, Bool.false_eq_true, if_false, unfolded]
  rfl

theorem foldlM_putWithin_spaces (depth count : Nat) :
    (List.replicate count space).foldlM (putWithin modes (depth + 1)) carriage =
      some ⟨carriage.column + UInt8.ofNat count,
        List.replicate count space ++ carriage.sent⟩ := by
  induction count generalizing carriage with
  | zero =>
    show some carriage = some ⟨carriage.column + 0, carriage.sent⟩
    rw [UInt8.add_zero]
  | succ count inductionHypothesis =>
    have column : carriage.column + 1 + UInt8.ofNat count =
        carriage.column + UInt8.ofNat (count + 1) := by
      rw [UInt8.ofNat_add, UInt8.add_assoc, UInt8.add_comm 1]
      rfl
    rw [List.replicate_succ, List.foldlM_cons, putWithin_space cooked, Option.bind_eq_bind,
      Option.bind_some, inductionHypothesis, column, ← List.replicate_succ, List.replicate_succ',
      List.append_assoc, List.singleton_append]

end Cooked

/-- Two calls inside one another are always enough, and the spaces that are printed one by one are
those that the map sends at once. -/
theorem putWithin_eq_put (modes : Modes) (depth : Nat) (carriage : Carriage) (byte : UInt8) :
    putWithin modes (depth + 2) carriage byte = some (carriage.put modes byte) := by
  rw [putWithin, put]
  by_cases raw : modes.has .raw
  · simp only [if_pos raw]
  · simp only [if_neg raw]
    generalize (if modes.has .foldCase then upperCase (sevenBits byte) else sevenBits byte) =
      character
    by_cases expanded : character = tab ∧ modes.has .expandTabs
    · rw [if_pos expanded, if_pos expanded,
        foldlM_putWithin_spaces (Bool.eq_false_iff.mpr raw)]
    · rw [if_neg expanded, if_neg expanded, apply_ite some]

end Carriage

/-! ### What is written -/

section Write

variable (terminal : Terminal)

theorem output_write (bytes : Bytes) :
    (terminal.write bytes).output =
      terminal.output ++ (printed terminal.header.modes terminal.header.column.toNat bytes).1 :=
  congrArg OutputSide.output (outputSide_write terminal bytes)

theorem column_write (bytes : Bytes) :
    (terminal.write bytes).header.column.toNat =
      (printed terminal.header.modes terminal.header.column.toNat bytes).2 :=
  congrArg OutputSide.column (outputSide_write terminal bytes)

/-- Into how many pieces bytes are cut does not matter to what is sent for them. -/
theorem output_run_write (chunks : List Bytes) :
    (run (chunks.map .write) terminal).2.output = (terminal.write chunks.flatten).output :=
  congrArg OutputSide.output
    ((outputSide_run_write terminal chunks).trans (outputSide_write terminal _).symm)

end Write

theorem printed_concat {modes : Modes} (cooked : modes.has .raw = false) (start : Nat)
    (bytes : Bytes) (byte : UInt8) :
    printed modes start (bytes ++ [byte]) =
      ((printed modes start bytes).1 ++
          respelled modes (printed modes start bytes).2 (lowSeven byte),
        columnAfter (printed modes start bytes).2 (lowSeven byte)) := by
  rw [printed_append, printed_cons cooked, spelling_eq_respelled, columnAfter_printedCharacter,
    printed_nil, List.append_nil]

/-- The next multiple of eight, of which there are 32 before the column wraps around. -/
theorem columnAfter_tab (column : Nat) :
    columnAfter column 9 = (column + (8 - column % 8)) % 256 ∧ columnAfter column 9 % 8 = 0 := by
  have stop : columnAfter column 9 = (column / 8 + 1) * 8 % 256 := rfl
  rw [stop]
  omega

/-- On a line that is not in raw mode, writing ends in the same column whatever options are set, and
what is sent is what the line sends with none of them, respelled: each tab as the spaces from the
column in which it stands to the next multiple of eight, each newline behind a carriage return and
each small letter as a capital, if the option for it is set, whichever others are. The multiple of
eight is where the line stands behind a tab. Printing the spaces of a tab one after the other
through the same map always comes to an end, and gives what the map gives at once. -/
theorem options_change_only_spelling (terminal : Terminal)
    (cooked : terminal.header.modes.has .raw = false) (bytes : Bytes) :
    let modes := terminal.header.modes
    let plain : Terminal :=
      { terminal with header := { terminal.header with modes := modes.withoutOptions } }
    (terminal.write bytes).header.column = (plain.write bytes).header.column ∧
    (plain.write bytes).output = terminal.output ++ bytes.map lowSeven ∧
    (terminal.write bytes).output =
      terminal.output ++
        (bytes.mapIdx fun position byte =>
          respelled modes (plain.write (bytes.take position)).header.column.toNat
            (lowSeven byte)).flatten ∧
    (∀ (position : Nat) (byte : UInt8), bytes[position]? = some byte → lowSeven byte = 9 →
      let start := (plain.write (bytes.take position)).header.column.toNat
      let stop := (terminal.write (bytes.take (position + 1))).header.column.toNat
      stop = (start + (8 - start % 8)) % 256 ∧ stop % 8 = 0) ∧
    ∀ (carriage : Carriage) (byte : UInt8) (depth : Nat), 2 ≤ depth →
      Carriage.putWithin modes depth carriage byte = some (carriage.put modes byte) := by
  intro modes plain
  have plainColumn (some : Bytes) : (plain.write some).header.column.toNat =
      (printed modes.withoutOptions terminal.header.column.toNat some).2 :=
    column_write plain some
  refine ⟨?_, ?_, ?_, ?_, ?_⟩
  · apply UInt8.toNat_inj.mp
    rw [column_write, plainColumn, printed_withoutOptions_snd cooked]
  · rw [output_write, ← printed_withoutOptions_fst cooked terminal.header.column.toNat bytes]
  · simp only [plainColumn]
    rw [output_write, printed_fst_eq_respelled cooked]
  · intro position byte here isTab start stop
    have stopEq : stop = columnAfter start 9 := by
      have taken : bytes.take (position + 1) = bytes.take position ++ [byte] := by
        rw [List.take_add_one, here]
        rfl
      show (terminal.write (bytes.take (position + 1))).header.column.toNat = _
      rw [column_write, taken, printed_concat cooked, isTab, ← printed_withoutOptions_snd cooked,
        ← plainColumn]
    rw [stopEq]
    exact columnAfter_tab start
  · intro carriage byte depth enough
    obtain ⟨more, rfl⟩ := Nat.exists_eq_add_of_le' enough
    exact Carriage.putWithin_eq_put modes more carriage byte

/-- All options together, on a line that stands close to the last column. -/
theorem options_change_only_spelling_around_wrap :
    let terminal : Terminal :=
      { header := { Header.fresh ⟨4, 0⟩ with modes := ⟨0o26⟩, column := 253 } }
    let bytes : Bytes := [97, 9, 98, 10, 9]
    terminal.header.modes.has .raw = false ∧
    (terminal.write bytes).output =
      [65, 32, 32, 66, 13, 10, 32, 32, 32, 32, 32, 32, 32, 32] ∧
    (terminal.write bytes).header.column = 8 := by
  intro terminal bytes
  have cooked : terminal.header.modes.has .raw = false := by decide
  obtain ⟨column, -, output, -⟩ := options_change_only_spelling terminal cooked bytes
  exact ⟨cooked, output.trans (by decide), column.trans (by decide)⟩

end SixthEdition.Terminal
