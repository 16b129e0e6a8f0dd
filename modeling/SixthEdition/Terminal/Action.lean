/-
This file holds what can happen to a terminal, from the side of the line or from
that of a program, and what comes of it over a run.
-/

import SixthEdition.Terminal.Input

namespace SixthEdition.Terminal

inductive Action where
  /-- Bytes arrive from the line. -/
  | receive (typed : Bytes)
  /-- The line takes the output that waits. -/
  | takeOutput
  | read (room : Nat)
  | write (bytes : Bytes)
  | openLine
  | closeLine
  | configure (settings : Settings)
  deriving DecidableEq

/-- Performs an action. Reading gives the bytes read and taking output those taken; any other
action gives none. -/
def perform (action : Action) (terminal : Terminal) : Bytes × Terminal :=
  match action with
  | .receive typed => ([], terminal.receive typed)
  | .takeOutput => terminal.takeOutput
  | .read room => terminal.read room
  | .write bytes => ([], terminal.write bytes)
  | .openLine => ([], terminal.openLine)
  | .closeLine => ([], terminal.closeLine)
  | .configure settings => ([], terminal.configure settings)

/-- Performs actions in order, and keeps with each of them the bytes that it gave. -/
def run : List Action → Terminal → List (Action × Bytes) × Terminal
  | [], terminal => ([], terminal)
  | action :: rest, terminal =>
    let (bytes, after) := terminal.perform action
    let (trace, final) := run rest after
    ((action, bytes) :: trace, final)

end SixthEdition.Terminal
