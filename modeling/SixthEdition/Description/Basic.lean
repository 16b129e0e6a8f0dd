/-
This file holds system descriptions: the terminals and processes that a system
is set up with. A description may ask for more than a system can hold; building
the system finds that out.
-/

import SixthEdition.Process.Status

namespace SixthEdition

structure TerminalDescription where
  /-- The modes of the line; those of a fresh line where there are none. -/
  modes : Option UInt16 := none
  speeds : UInt16 := 0
  deriving DecidableEq

structure ProcessDescription where
  id : UInt16
  parent : UInt16 := 0
  user : UInt8 := 0
  status : ProcessStatus := .sleep
  flags : UInt8 := 0
  priority : Int8 := 0
  nice : Int8 := 0
  /-- The unit number of the controlling terminal. -/
  terminal : Option UInt64 := none
  arguments : List String := []
  /-- The size of the image, in bytes. -/
  imageSize : UInt64 := 4096
  waitChannel : UInt16 := 0
  deriving DecidableEq

structure Description where
  terminals : List TerminalDescription := []
  processes : List ProcessDescription := []
  deriving DecidableEq

namespace Description

/-- A system that has just been started: the swapper, the first process, a shell on the only
terminal and the lister that it runs. -/
def sample : Description where
  terminals := [{}]
  processes :=
    [{ id := 0, flags := 0o2, priority := -100, waitChannel := 0o5206, arguments := ["swapper"] },
      { id := 1, status := .wait, priority := 40, waitChannel := 0o5234,
        arguments := ["/etc/init"] },
      { id := 14, parent := 1, status := .wait, priority := 40, terminal := some 0,
        waitChannel := 0o5262, arguments := ["-sh"] },
      { id := 15, parent := 14, status := .run, priority := 90, terminal := some 0,
        arguments := ["ps"] }]

end Description

end SixthEdition
