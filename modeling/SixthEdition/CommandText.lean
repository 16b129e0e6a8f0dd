/-
This file holds the recovery of a command line from the top page of a process
image. The arguments of a program start behind the last word of ones in the
page; what follows is made printable, and ends at the first variable of the
environment, which is recognised by its equals sign.
-/

import SixthEdition.Bytes

namespace SixthEdition.CommandText

/-- What follows the last whole word of ones, if there is such a word. -/
def afterMarker? : Bytes → Option Bytes
  | low :: high :: rest =>
    match afterMarker? rest with
    | some strings => some strings
    | none => if low = 0xFF ∧ high = 0xFF then some rest else none
  | _ => none

/-- The unprintable bytes that are shown before the rest of the page is given up. -/
def tolerance : Nat := 5

def isPrintable (byte : UInt8) : Bool :=
  decide (32 ≤ byte) && decide (byte ≤ 126)

/-- The text without its last word, and without the space before that word. -/
def dropLastWord (reversed : List Char) : List Char :=
  (reversed.dropWhile (· ≠ ' ')).tail

/-- Makes the bytes printable, given the text so far, latest character first, and the number of
unprintable bytes in it. A zero byte becomes a space, and an equals sign takes the word that it
stands in out of the text and ends it. -/
def transcribe (unprintable : Nat) (reversed : List Char) : Bytes → List Char
  | [] => reversed
  | byte :: rest =>
    let byte := byte &&& 0o177
    if byte = 0 then transcribe unprintable (' ' :: reversed) rest
    else if byte = 61 then dropLastWord reversed
    else if isPrintable byte then
      transcribe unprintable (Char.ofNat byte.toNat :: reversed) rest
    else if unprintable < tolerance then
      transcribe (unprintable + 1) ('?' :: reversed) rest
    else reversed

/-- The text without the spaces at both ends, from its reversal. -/
def trimmed (reversed : List Char) : List Char :=
  ((reversed.dropWhile (· = ' ')).reverse).dropWhile (· = ' ')

/-- The command line at the top of a page, if there is anything in it. -/
def ofPage? (page : Bytes) : Option String :=
  match afterMarker? page with
  | none => none
  | some strings =>
    match trimmed (transcribe 0 [] strings) with
    | [] => none
    | text => some (String.ofList text)

end SixthEdition.CommandText
