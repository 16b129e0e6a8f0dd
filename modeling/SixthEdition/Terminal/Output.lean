/-
This file holds the output side of a terminal. Program output and echoed input
go through one map, byte by byte, which carries the column of the carriage
along: the column decides how many spaces a tab expands to.
-/

import SixthEdition.Terminal.Basic

namespace SixthEdition.Terminal

/-- Where the carriage stands after some output, and that output, latest byte first. -/
structure Carriage where
  column : UInt8
  sent : Bytes
  deriving DecidableEq

/-- The 7-bit character in a byte. -/
def sevenBits (byte : UInt8) : UInt8 :=
  byte &&& 0o177

def upperCase (byte : UInt8) : UInt8 :=
  if 97 ≤ byte ∧ byte ≤ 122 then byte - 32 else byte

/-- The column after a character has been printed as it is. The column is one byte: it wraps
around at its end, and a backspace at its start leaves it there. -/
def advance (column byte : UInt8) : UInt8 :=
  if byte = newline ∨ byte = carriageReturn then 0
  else if byte = backspace then (if column = 0 then 0 else column - 1)
  else if byte = tab then (column ||| 7) + 1
  else if space ≤ byte then column + 1
  else column

/-- The spaces from a column to the next tab stop. -/
def spacesToStop (column : UInt8) : Nat :=
  8 - column.toNat % 8

namespace Carriage

/-- Prints one byte under the modes of the line. -/
def put (modes : Modes) (carriage : Carriage) (byte : UInt8) : Carriage :=
  let byte := sevenBits byte
  if modes.has .raw then { carriage with sent := byte :: carriage.sent }
  else
    let byte := if modes.has .foldCase then upperCase byte else byte
    if byte = tab ∧ modes.has .expandTabs then
      let count := spacesToStop carriage.column
      ⟨carriage.column + UInt8.ofNat count, List.replicate count space ++ carriage.sent⟩
    else if byte = newline ∧ modes.has .mapReturn then
      ⟨0, newline :: carriageReturn :: carriage.sent⟩
    else ⟨advance carriage.column byte, byte :: carriage.sent⟩

def putAll (modes : Modes) (carriage : Carriage) (bytes : Bytes) : Carriage :=
  bytes.foldl (put modes) carriage

end Carriage

/-- Puts bytes on the output queue, without refreshing the counts. -/
def print (bytes : Bytes) (terminal : Terminal) : Terminal :=
  let carriage := Carriage.putAll terminal.header.modes ⟨terminal.header.column, []⟩ bytes
  { terminal with
    header.column := carriage.column
    output := terminal.output ++ carriage.sent.reverse }

/-- A program writes to the line. -/
def write (bytes : Bytes) (terminal : Terminal) : Terminal :=
  (terminal.print bytes).refreshCounts

/-- The line takes all output that waits. -/
def takeOutput (terminal : Terminal) : Bytes × Terminal :=
  (terminal.output, { terminal with output := [] }.refreshCounts)

end SixthEdition.Terminal
