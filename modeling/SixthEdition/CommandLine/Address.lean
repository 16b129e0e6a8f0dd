/-
This file holds kernel addresses as they are typed: hexadecimal behind `0x`,
octal behind `0o` or a leading zero, and decimal otherwise.
-/

import SixthEdition.CommandLine.Quoted

namespace SixthEdition.CommandLine

/-- Addresses have 64 bits. -/
def addressLimit : Nat := UInt64.size

def readAddress : List Char → Except Numeral.Fault Nat
  | '0' :: 'x' :: digits => Numeral.read 16 addressLimit digits
  | '0' :: 'o' :: digits => Numeral.read 8 addressLimit digits
  | '0' :: char :: digits => Numeral.read 8 addressLimit (char :: digits)
  | digits => Numeral.read 10 addressLimit digits

/-- An argument that is no address, and why. -/
structure AddressFault where
  argument : String
  fault : Numeral.Fault
  deriving DecidableEq

def AddressFault.message (fault : AddressFault) : String :=
  "invalid address " ++ quoted fault.argument ++ ": " ++ fault.fault.message

def parseAddress (argument : String) : Except AddressFault Nat :=
  match readAddress argument.toList with
  | .ok address => .ok address
  | .error fault => .error ⟨argument, fault⟩

end SixthEdition.CommandLine
