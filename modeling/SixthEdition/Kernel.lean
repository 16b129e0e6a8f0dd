/-
This file holds the kernel during the calls of one process: the shared tables,
and the slot in which a call leaves its error. A call that goes well leaves the
slot as it was, so that an error stays until somebody takes it.
-/

import SixthEdition.ErrorNumber
import SixthEdition.Tables

namespace SixthEdition

structure Kernel where
  tables : Tables
  error : Option ErrorNumber := none

namespace Kernel

def fail (code : ErrorNumber) (kernel : Kernel) : Kernel :=
  { kernel with error := some code }

/-- What the slot holds, and the kernel with an empty slot. -/
def takeError (kernel : Kernel) : Option ErrorNumber × Kernel :=
  (kernel.error, { kernel with error := none })

end Kernel

end SixthEdition
