/-
This file holds processes: a record of the process table and the memory image
behind it.
-/

import SixthEdition.Process.Arguments
import SixthEdition.Process.Record

namespace SixthEdition

structure Process where
  record : ProcessRecord
  image : Bytes
  deriving DecidableEq

namespace Process

/-- A process whose image is all zeros. -/
def blank (record : ProcessRecord) (size : Nat) : Process :=
  ⟨record, List.replicate size 0⟩

/-- The process with a program's arguments at the top of its image. -/
def withArguments (process : Process) (arguments : List String) :
    Except Arguments.TooLarge Process :=
  match Arguments.layOut (arguments.map Bytes.ofText) process.image with
  | .ok image => .ok { process with image }
  | .error fault => .error fault

end Process

end SixthEdition
