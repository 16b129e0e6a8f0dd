/-
This file holds the scheduling states of a process. Number zero marks an unused
slot of the process table, and numbers above six stand for no state, although a
record can hold them.
-/

namespace SixthEdition

inductive ProcessStatus where
  | sleep
  | wait
  | run
  | idle
  | zombie
  | stopped
  deriving DecidableEq

namespace ProcessStatus

def number : ProcessStatus → UInt8
  | .sleep => 1
  | .wait => 2
  | .run => 3
  | .idle => 4
  | .zombie => 5
  | .stopped => 6

/-- The states in the order of their numbers. -/
def all : List ProcessStatus :=
  [.sleep, .wait, .run, .idle, .zombie, .stopped]

def ofNumber? (number : UInt8) : Option ProcessStatus :=
  all.find? (·.number == number)

/-- The letter that stands for the state in a long listing. -/
def letter : ProcessStatus → Char
  | .sleep => 'S'
  | .wait => 'W'
  | .run => 'R'
  | .idle => 'I'
  | .zombie => 'Z'
  | .stopped => 'T'

/-- The word that stands for the state in a system description. -/
def word : ProcessStatus → String
  | .sleep => "sleep"
  | .wait => "wait"
  | .run => "run"
  | .idle => "idle"
  | .zombie => "zombie"
  | .stopped => "stopped"

def ofWord? (word : String) : Option ProcessStatus :=
  all.find? (·.word == word)

end ProcessStatus

end SixthEdition
