/-
This file proves how far tabs reach on a line that expands them, however long it
is. The header keeps the column in one byte. That is enough for tabs as such: a
tab only needs the column modulo eight, and 256 is a multiple of eight, so that
the byte may wrap around as often as it likes.

It is not enough for backspaces. A backspace leaves the kept column alone when
that is zero, and after a wrap it is zero in the middle of a line, where the
cursor does go back. Each such stray backspace puts the two columns one further
apart, and a tab then reaches the stop it should exactly when they have come to
differ by a multiple of eight. The tab itself takes both to a multiple of eight,
and a newline or a carriage return takes both to zero, so the count of strays
starts again behind each of these.
-/

import Mathlib.Data.List.Induction
import SixthEdition.Proofs.OutputOptions

namespace SixthEdition.Terminal

/-! ### The cursor -/

/-- The column in which the cursor of a line truly stands behind a character that starts in a
column. The line has no end. -/
def trueColumnAfter (column : Nat) (character : UInt8) : Nat :=
  if character = 10 ∨ character = 13 then 0
  else if character = 8 then column - 1
  else if character = 9 then (column / 8 + 1) * 8
  else if 32 ≤ character then column + 1
  else column

/-- Where the cursor of a line stands, and what the line knows of it. -/
structure Cursor where
  /-- The column in which the cursor truly stands. -/
  column : Nat
  /-- The column that the header keeps. -/
  kept : Nat
  /-- The backspaces since the last tab, newline or carriage return that moved the cursor while the
  kept column was zero and stayed so. -/
  strays : Nat
  deriving DecidableEq

namespace Cursor

def start : Cursor := ⟨0, 0, 0⟩

def move (cursor : Cursor) (character : UInt8) : Cursor where
  column := trueColumnAfter cursor.column character
  kept := columnAfter cursor.kept character
  strays :=
    if character = 9 ∨ character = 10 ∨ character = 13 then 0
    else if character = 8 ∧ cursor.kept = 0 ∧ 0 < cursor.column then cursor.strays + 1
    else cursor.strays

/-- The cursor behind some bytes that are printed on a new line. -/
def behind (bytes : Bytes) : Cursor :=
  bytes.foldl (fun cursor byte => cursor.move (lowSeven byte)) start

theorem behind_concat (bytes : Bytes) (byte : UInt8) :
    behind (bytes ++ [byte]) = (behind bytes).move (lowSeven byte) := by
  rw [behind, List.foldl_append]
  rfl

/-- All that a character can do to the cursor. -/
theorem move_cases (cursor : Cursor) (character : UInt8) :
    cursor.move character = start ∨
    (character = 8 ∧ cursor.kept = 0 ∧ 0 < cursor.column ∧
      cursor.move character = ⟨cursor.column - 1, 0, cursor.strays + 1⟩) ∨
    ((cursor.kept = 0 → cursor.column = 0) ∧
      cursor.move character = ⟨cursor.column - 1, cursor.kept - 1, cursor.strays⟩) ∨
    cursor.move character = ⟨(cursor.column / 8 + 1) * 8, (cursor.kept / 8 + 1) * 8 % 256, 0⟩ ∨
    cursor.move character = ⟨cursor.column + 1, (cursor.kept + 1) % 256, cursor.strays⟩ ∨
    cursor.move character = cursor := by
  by_cases returns : character = 10 ∨ character = 13
  · rcases returns with rfl | rfl <;> exact .inl rfl
  by_cases tab : character = 9
  · subst tab
    exact .inr (.inr (.inr (.inl rfl)))
  have ordinary : ¬ (character = 9 ∨ character = 10 ∨ character = 13) := not_or.mpr ⟨tab, returns⟩
  by_cases back : character = 8
  · have moved : cursor.move character = ⟨cursor.column - 1, cursor.kept - 1,
        if character = 8 ∧ cursor.kept = 0 ∧ 0 < cursor.column then cursor.strays + 1
        else cursor.strays⟩ := by
      rw [move, trueColumnAfter, columnAfter, if_neg returns, if_neg returns, if_pos back,
        if_pos back, if_neg ordinary]
    by_cases stray : cursor.kept = 0 ∧ 0 < cursor.column
    · rw [if_pos ⟨back, stray⟩, stray.1] at moved
      exact .inr (.inl ⟨back, stray.1, stray.2, moved⟩)
    · rw [if_neg fun both => stray both.2] at moved
      exact .inr (.inr (.inl ⟨fun zero => Nat.eq_zero_of_not_pos fun positive =>
        stray ⟨zero, positive⟩, moved⟩))
  have moved : cursor.move character =
      ⟨if 32 ≤ character then cursor.column + 1 else cursor.column,
        if 32 ≤ character then (cursor.kept + 1) % 256 else cursor.kept, cursor.strays⟩ := by
    have notStray : ¬ (character = 8 ∧ cursor.kept = 0 ∧ 0 < cursor.column) :=
      fun stray => back stray.1
    rw [move, trueColumnAfter, columnAfter, if_neg returns, if_neg returns, if_neg back,
      if_neg back, if_neg tab, if_neg tab, if_neg ordinary, if_neg notStray]
  by_cases visible : 32 ≤ character
  · rw [if_pos visible, if_pos visible] at moved
    exact .inr (.inr (.inr (.inr (.inl moved))))
  · rw [if_neg visible, if_neg visible] at moved
    exact .inr (.inr (.inr (.inr (.inr moved))))

/-- The kept column is never above the true one, and the strays are what the two differ by as far as
tabs are concerned. -/
structure Tracked (cursor : Cursor) : Prop where
  kept_le : cursor.kept ≤ cursor.column
  aligned : cursor.kept % 8 = (cursor.column + cursor.strays) % 8

theorem Tracked.move {cursor : Cursor} (tracked : cursor.Tracked) (character : UInt8) :
    (cursor.move character).Tracked := by
  obtain ⟨keptLe, aligned⟩ := tracked
  rcases move_cases cursor character with
    returned | ⟨-, keptZero, positive, strayed⟩ | ⟨both, wentBack⟩ | tabbed | stepped | stayed
  · rw [returned]
    exact ⟨Nat.le_refl 0, rfl⟩
  · rw [strayed]
    refine ⟨Nat.zero_le _, ?_⟩
    show 0 % 8 = (cursor.column - 1 + (cursor.strays + 1)) % 8
    omega
  · rw [wentBack]
    refine ⟨Nat.sub_le_sub_right keptLe 1, ?_⟩
    show (cursor.kept - 1) % 8 = (cursor.column - 1 + cursor.strays) % 8
    omega
  · rw [tabbed]
    constructor
    · show (cursor.kept / 8 + 1) * 8 % 256 ≤ (cursor.column / 8 + 1) * 8
      omega
    · show (cursor.kept / 8 + 1) * 8 % 256 % 8 = ((cursor.column / 8 + 1) * 8 + 0) % 8
      omega
  · rw [stepped]
    constructor
    · show (cursor.kept + 1) % 256 ≤ cursor.column + 1
      omega
    · show (cursor.kept + 1) % 256 % 8 = (cursor.column + 1 + cursor.strays) % 8
      omega
  · rw [stayed]
    exact ⟨keptLe, aligned⟩

theorem tracked_behind (bytes : Bytes) : (behind bytes).Tracked := by
  induction bytes using List.reverseRecOn with
  | nil => exact ⟨Nat.le_refl 0, rfl⟩
  | append_singleton before byte inductionHypothesis =>
    rw [behind_concat]
    exact inductionHypothesis.move (lowSeven byte)

/-- The spaces that the kept column asks for reach the next stop of the true one exactly when the
strays are a multiple of eight. -/
theorem Tracked.reaches_stop_iff {cursor : Cursor} (tracked : cursor.Tracked) :
    cursor.column + (8 - cursor.kept % 8) = (cursor.column / 8 + 1) * 8 ↔ 8 ∣ cursor.strays := by
  have aligned := tracked.aligned
  omega

/-- The column that the header keeps is the kept one. -/
theorem kept_behind {modes : Modes} (cooked : modes.has .raw = false) (bytes : Bytes) :
    (behind bytes).kept = (printed modes 0 bytes).2 := by
  induction bytes using List.reverseRecOn with
  | nil => rfl
  | append_singleton before byte inductionHypothesis =>
    rw [behind_concat, printed_concat cooked, ← inductionHypothesis]
    rfl

/-- The kept column is the true one, but for the wrapping, and no backspace has strayed. -/
structure Exact (cursor : Cursor) : Prop where
  kept_eq : cursor.kept = cursor.column % 256
  strays_eq : cursor.strays = 0

theorem Exact.move {cursor : Cursor} (exact : cursor.Exact) {character : UInt8}
    (atStart : character = 8 → 256 ∣ cursor.column → cursor.column = 0) :
    (cursor.move character).Exact := by
  obtain ⟨keptEq, straysEq⟩ := exact
  rcases move_cases cursor character with
    returned | ⟨back, keptZero, positive, -⟩ | ⟨both, wentBack⟩ | tabbed | stepped | stayed
  · rw [returned]
    exact ⟨rfl, rfl⟩
  · have zero := atStart back (Nat.dvd_of_mod_eq_zero (keptEq.symm.trans keptZero))
    exact absurd zero (Nat.ne_of_gt positive)
  · rw [wentBack]
    refine ⟨?_, straysEq⟩
    show cursor.kept - 1 = (cursor.column - 1) % 256
    omega
  · rw [tabbed]
    refine ⟨?_, rfl⟩
    show (cursor.kept / 8 + 1) * 8 % 256 = (cursor.column / 8 + 1) * 8 % 256
    omega
  · rw [stepped]
    refine ⟨?_, straysEq⟩
    show (cursor.kept + 1) % 256 = (cursor.column + 1) % 256
    omega
  · rw [stayed]
    exact ⟨keptEq, straysEq⟩

/-- No backspace strays where none is printed at a multiple of 256 but zero. -/
theorem exact_behind {bytes : Bytes}
    (atStart : ∀ (before after : Bytes) (byte : UInt8), bytes = before ++ byte :: after →
      lowSeven byte = 8 → 256 ∣ (behind before).column → (behind before).column = 0) :
    (behind bytes).Exact := by
  induction bytes using List.reverseRecOn with
  | nil => exact ⟨rfl, rfl⟩
  | append_singleton before byte inductionHypothesis =>
    rw [behind_concat]
    refine (inductionHypothesis fun earlier between back parts => ?_).move
      (atStart before [] byte rfl)
    refine atStart earlier (between ++ [byte]) back ?_
    rw [parts, List.append_assoc, List.cons_append]

end Cursor

/-! ### Tabs -/

theorem respelled_tab {modes : Modes} (expands : modes.has .expandTabs) (column : Nat) :
    respelled modes column 9 = List.replicate (8 - column % 8) 32 :=
  if_pos expands

/-- On a new line that expands tabs and is not in raw mode, each tab becomes one to eight spaces,
into whatever pieces the output is cut. They end at the next multiple of eight behind the column in
which the cursor truly stands exactly when the backspaces that have strayed since the last tab,
newline or carriage return are a multiple of eight; and none has where no backspace is printed in a
column that is a multiple of 256 but zero. -/
theorem tab_reaches_stop_iff (terminal : Terminal)
    (expands : terminal.header.modes.has .expandTabs)
    (cooked : terminal.header.modes.has .raw = false) (newLine : terminal.header.column = 0)
    (chunks : List Bytes) (before after : Bytes) (byte : UInt8) (isTab : lowSeven byte = 9)
    (parts : chunks.flatten = before ++ byte :: after) :
    let final := (run (chunks.map .write) terminal).2
    let cursor := Cursor.behind before
    (terminal.write before).header.column.toNat = cursor.kept ∧
    (∃ (count : Nat) (later : Bytes),
      1 ≤ count ∧ count ≤ 8 ∧
      (terminal.write (before ++ [byte])).output =
        (terminal.write before).output ++ List.replicate count 32 ∧
      final.output = (terminal.write (before ++ [byte])).output ++ later ∧
      (cursor.column + count = (cursor.column / 8 + 1) * 8 ↔ 8 ∣ cursor.strays)) ∧
    ((∀ (earlier between : Bytes) (back : UInt8), before = earlier ++ back :: between →
        lowSeven back = 8 → 256 ∣ (Cursor.behind earlier).column →
        (Cursor.behind earlier).column = 0) →
      cursor.strays = 0) := by
  intro final cursor
  have start : terminal.header.column.toNat = 0 := congrArg UInt8.toNat newLine
  have kept : cursor.kept = (printed terminal.header.modes 0 before).2 :=
    Cursor.kept_behind cooked before
  have whole : chunks.flatten = before ++ [byte] ++ after := by
    rw [parts, List.append_assoc, List.singleton_append]
  refine ⟨?_, ⟨8 - cursor.kept % 8,
    (printed terminal.header.modes (printed terminal.header.modes 0 (before ++ [byte])).2 after).1,
    ?_, Nat.sub_le 8 _, ?_, ?_, ?_⟩, ?_⟩
  · rw [column_write, start, kept]
  · omega
  · rw [output_write, output_write, start, printed_concat cooked, isTab, respelled_tab expands,
      kept, List.append_assoc]
  · show (run (chunks.map .write) terminal).2.output = _
    rw [output_run_write, output_write, output_write, start, whole, printed_append,
      List.append_assoc]
  · exact (Cursor.tracked_behind before).reaches_stop_iff
  · exact fun atStart => (Cursor.exact_behind atStart).strays_eq

/-- Eight backspaces stray behind a wrap, and the tab behind them reaches its stop all the same. -/
theorem tab_reaches_stop_after_eight_strays :
    let terminal : Terminal := { header := { Header.fresh ⟨4, 0⟩ with modes := ⟨0o2⟩ } }
    let before : Bytes := List.replicate 256 97 ++ List.replicate 8 8
    let chunks : List Bytes :=
      [List.replicate 200 97, List.replicate 56 97, [], List.replicate 8 8 ++ [137, 98]]
    terminal.header.modes.has .expandTabs ∧ terminal.header.modes.has .raw = false ∧
    terminal.header.column = 0 ∧ lowSeven 137 = 9 ∧ chunks.flatten = before ++ [137, 98] ∧
    (Cursor.behind before).column = 248 ∧ (Cursor.behind before).strays = 8 ∧
    (terminal.write (before ++ [137])).output =
      (terminal.write before).output ++ List.replicate 8 32 := by
  intro terminal before chunks
  have expands : terminal.header.modes.has .expandTabs := by decide
  have cooked : terminal.header.modes.has .raw = false := by decide
  have parts : chunks.flatten = before ++ [137, 98] := by decide +kernel
  have column : (Cursor.behind before).column = 248 := by decide +kernel
  have strays : (Cursor.behind before).strays = 8 := by decide +kernel
  obtain ⟨-, ⟨count, later, -, -, spaces, -, reaches⟩, -⟩ :=
    tab_reaches_stop_iff terminal expands cooked rfl chunks before [98] 137 rfl parts
  rw [column, strays] at reaches
  have reached := reaches.mpr (Nat.dvd_refl 8)
  obtain rfl : count = 8 := by omega
  exact ⟨expands, cooked, rfl, rfl, parts, column, strays, spaces⟩

/-- One backspace that strays behind a wrap, and the tab behind it goes seven columns too far. -/
theorem tab_misses_stop_after_one_stray :
    let terminal : Terminal := { header := { Header.fresh ⟨4, 0⟩ with modes := ⟨0o2⟩ } }
    let before : Bytes := List.replicate 256 97 ++ [8]
    let cursor := Cursor.behind before
    terminal.header.modes.has .expandTabs ∧ terminal.header.modes.has .raw = false ∧
    terminal.header.column = 0 ∧ cursor.column = 255 ∧ cursor.strays = 1 ∧
    (terminal.write (before ++ [9])).output =
      (terminal.write before).output ++ List.replicate 8 32 ∧
    cursor.column + 8 = (cursor.column / 8 + 1) * 8 + 7 := by
  decide +kernel

end SixthEdition.Terminal
