/-
This file holds the dump of a piece of kernel memory: sixteen bytes to a line,
behind their address in octal, once as hexadecimal pairs and once as characters.
-/

import SixthEdition.Bytes
import SixthEdition.Numeral

namespace SixthEdition.MemoryDump

/-- The bytes on one line. -/
def rowWidth : Nat := 16

def addressText (address : Nat) : List Char :=
  Numeral.padLeft 7 '0' (Numeral.octal address)

def pairText (byte : UInt8) : List Char :=
  Numeral.padLeft 2 '0' (Numeral.hexadecimal byte.toNat)

/-- A printable character stands for itself, any other byte is a point. -/
def characterText (byte : UInt8) : Char :=
  if 32 ≤ byte ∧ byte ≤ 126 then Char.ofNat byte.toNat else '.'

/-- A line. Blanks fill the place of the pairs that a short row lacks, so that the characters
start in one column. -/
def row (address : Nat) (bytes : Bytes) : List Char :=
  addressText address ++ [' '] ++ bytes.flatMap (fun byte => ' ' :: pairText byte) ++
    (List.replicate (rowWidth - bytes.length) [' ', ' ', ' ']).flatten ++ [' ', ' ', '|'] ++
    bytes.map characterText ++ ['|', '\n']

/-- The lines of the bytes found at an address. -/
def text (address : Nat) (bytes : Bytes) : List Char :=
  ((bytes.rows rowWidth).mapIdx fun index => row (address + rowWidth * index)).flatten

def render (address : Nat) (bytes : Bytes) : String :=
  String.ofList (text address bytes)

end SixthEdition.MemoryDump
