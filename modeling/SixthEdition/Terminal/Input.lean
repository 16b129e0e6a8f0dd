/-
This file holds the input side of a terminal. Typed characters collect in the
raw queue. A read moves the first complete line to the canonical queue, editing
it on the way, and serves from there; a line in raw mode is served straight from
the raw queue.
-/

import SixthEdition.Terminal.Output

namespace SixthEdition.Terminal

def lowerCase (byte : UInt8) : UInt8 :=
  if 65 ≤ byte ∧ byte ≤ 90 then byte + 32 else byte

/-- The character that a typed byte counts as. -/
def Modes.inputByte (modes : Modes) (byte : UInt8) : UInt8 :=
  let byte := sevenBits byte
  let byte := if byte = carriageReturn ∧ modes.has .mapReturn then newline else byte
  if modes.has .foldCase then lowerCase byte else byte

/-- A newline ends a line and belongs to it; an end of text ends a line and is dropped. -/
def isDelimiter (byte : UInt8) : Bool :=
  byte == newline || byte == endOfText

/-- The delimiter count after `more` further ones: 255 stands for any higher count too. -/
def countUp (count : UInt8) (more : Nat) : UInt8 :=
  UInt8.ofNat (min 255 (count.toNat + more))

def countDown (count : UInt8) : UInt8 :=
  if count = 0 then 0 else count - 1

theorem toNat_countUp (count : UInt8) (more : Nat) :
    (countUp count more).toNat = min 255 (count.toNat + more) := by
  rw [countUp, UInt8.toNat_ofNat_of_lt']
  show min 255 (count.toNat + more) < 256
  omega

theorem toNat_countDown (count : UInt8) : (countDown count).toNat = count.toNat - 1 := by
  rw [countDown]
  split
  case isTrue zero =>
    rw [zero]
    rfl
  case isFalse nonzero =>
    have positive : 1 ≤ count.toNat :=
      Nat.one_le_iff_ne_zero.mpr fun zero => nonzero (UInt8.toNat_inj.mp zero)
    exact UInt8.toNat_sub_of_le count 1 (UInt8.le_iff_toNat_le.mpr positive)

/-- Bytes arrive from the line. -/
def receive (typed : Bytes) (terminal : Terminal) : Terminal :=
  let modes := terminal.header.modes
  let received := typed.map modes.inputByte
  let queued :=
    { terminal with
      raw := terminal.raw ++ received
      header.delimiters :=
        if modes.has .raw then terminal.header.delimiters
        else countUp terminal.header.delimiters (received.countP isDelimiter) }
  let echoed := if modes.has .echo then queued.print received else queued
  echoed.refreshCounts

/-! ### Lines -/

/-- The first complete line, with its delimiter, and what follows it. -/
def firstLine? (raw : Bytes) : Option (Bytes × Bytes) :=
  match raw.dropWhile (! isDelimiter ·) with
  | [] => none
  | delimiter :: rest => some (raw.takeWhile (! isDelimiter ·) ++ [delimiter], rest)

/-- One character of a line acts on what has been kept so far, latest character first. -/
def editStep (erase kill : UInt8) (kept : Bytes) (byte : UInt8) : Bytes :=
  if byte = endOfText then kept
  else if byte = erase then kept.tail
  else if byte = kill then []
  else byte :: kept

/-- What is left of a line after its erase and kill characters have acted. -/
def editLine (erase kill : UInt8) (line : Bytes) : Bytes :=
  (line.foldl (editStep erase kill) []).reverse

/-- Moves the first complete line, if there is one, to the canonical queue. -/
def canonicalize (terminal : Terminal) : Terminal :=
  match firstLine? terminal.raw with
  | none => terminal
  | some (line, rest) =>
    { terminal with
      raw := rest
      canonical := editLine terminal.header.erase terminal.header.kill line
      header.delimiters := countDown terminal.header.delimiters }

/-- A program reads from the line and has room for so many bytes. -/
def read (room : Nat) (terminal : Terminal) : Bytes × Terminal :=
  if terminal.header.modes.has .raw then
    (terminal.raw.take room, { terminal with raw := terminal.raw.drop room }.refreshCounts)
  else
    let ready := if terminal.canonical.isEmpty then terminal.canonicalize else terminal
    (ready.canonical.take room,
      { ready with canonical := ready.canonical.drop room }.refreshCounts)

end SixthEdition.Terminal
