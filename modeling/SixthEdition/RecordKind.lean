/-
This file holds what the two kernel records have in common: each has one length,
and decoding fails for a byte string of any other length and for no other
reason.
-/

import SixthEdition.Bytes
import SixthEdition.Numeral

namespace SixthEdition

inductive RecordKind where
  | process
  | terminal
  deriving DecidableEq

namespace RecordKind

def name : RecordKind → String
  | .process => "proc"
  | .terminal => "tty"

/-- The length of a record, in bytes. -/
def size : RecordKind → Nat
  | .process => 22
  | .terminal => 32

end RecordKind

/-- A byte string that is too short or too long for a record, given with its length. -/
structure RecordFault where
  kind : RecordKind
  found : Nat
  deriving DecidableEq

def RecordFault.message (fault : RecordFault) : String :=
  fault.kind.name ++ " record is " ++ String.ofList (Numeral.decimal fault.found) ++
    " bytes (expected " ++ String.ofList (Numeral.decimal fault.kind.size) ++ ")"

/-- Decodes the fields of a byte string that has the length of its kind. -/
def RecordKind.decode {Fields : Type} (kind : RecordKind) (fields : Bytes → Fields)
    (bytes : Bytes) : Except RecordFault Fields :=
  if bytes.length = kind.size then .ok (fields bytes) else .error ⟨kind, bytes.length⟩

end SixthEdition
