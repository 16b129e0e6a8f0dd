/-
This file holds the listings of processes. Each is a table with a line of
titles; numbers are flush right under theirs, and a field that is too long for
its column pushes the rest of the line to the right.
-/

import SixthEdition.KernelReader.Processes

namespace SixthEdition.ProcessListing

/-! ### Fields -/

def right (width : Nat) (text : List Char) : List Char :=
  Numeral.padLeft width ' ' text

def left (width : Nat) (text : List Char) : List Char :=
  Numeral.padRight width ' ' text

/-- The terminal by its unit number, or a question mark for none. -/
def terminalText (entry : ProcessEntry) : List Char :=
  match entry.terminal with
  | some device => "tty".toList ++ Numeral.decimal device.minor.toNat
  | none => ['?']

def commandText (entry : ProcessEntry) : List Char :=
  match entry.command with
  | some command => command.toList
  | none => ['?']

/-- The letter of the state, or a question mark where the number stands for none. -/
def statusText (record : ProcessRecord) : Char :=
  match record.status? with
  | some status => status.letter
  | none => '?'

/-- The wait channel in octal, blank where it is zero. -/
def waitText (record : ProcessRecord) : List Char :=
  if record.waitChannel = 0 then [] else Numeral.octal record.waitChannel.toNat

/-! ### Lines -/

/-- What a listing shows of each process. -/
inductive Form where
  | short
  | long
  deriving DecidableEq

def titles : Form → List (List Char)
  | .short => [right 5 "PID".toList, left 5 "TTY".toList, "CMD".toList]
  | .long =>
    [right 3 "F".toList, "S".toList, right 3 "UID".toList, right 5 "PID".toList,
      right 5 "PPID".toList, right 4 "PRI".toList, right 3 "NI".toList, right 6 "ADDR".toList,
      right 4 "SZ".toList, right 6 "WCHAN".toList, left 5 "TTY".toList, "CMD".toList]

/-- The fields of a process. Flags, address and wait channel are in octal, all other numbers in
decimal. -/
def fields (entry : ProcessEntry) : Form → List (List Char)
  | .short =>
    [right 5 (Numeral.decimal entry.record.id.toNat), left 5 (terminalText entry),
      commandText entry]
  | .long =>
    let record := entry.record
    [right 3 (Numeral.octal record.flags.bits.toNat), [statusText record],
      right 3 (Numeral.decimal record.user.toNat), right 5 (Numeral.decimal record.id.toNat),
      right 5 (Numeral.decimal record.parent.toNat),
      right 4 (Numeral.signed record.priority.toInt),
      right 3 (Numeral.signed record.nice.toInt), right 6 (Numeral.octal record.address.toNat),
      right 4 (Numeral.decimal record.size.toNat), right 6 (waitText record),
      left 5 (terminalText entry), commandText entry]

/-- A line: its fields with a space between each two. -/
def line (fields : List (List Char)) : List Char :=
  [' '].intercalate fields ++ ['\n']

/-! ### Listings -/

/-- The lines of a listing: the titles and one line for each process. -/
def lines (form : Form) (entries : List ProcessEntry) : List (List Char) :=
  line (titles form) :: entries.map fun entry => line (fields entry form)

def render (form : Form) (entries : List ProcessEntry) : String :=
  String.ofList (lines form entries).flatten

end SixthEdition.ProcessListing
