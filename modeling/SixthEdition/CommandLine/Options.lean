/-
This file holds the reading of the command line. The options of the program come
first; `peek` starts a command with options of its own. An option that takes a
value waits for it, and the value is looked at when the next known option, or
the end, shows that it is complete; a value behind an equals sign is looked at
at once. The first fault met in this order is the one reported. `help` looks at
nothing but the names behind it.
-/

import SixthEdition.CommandLine.Address
import SixthEdition.ProcessListing

namespace SixthEdition.CommandLine

/-! ### Arguments -/

/-- What an argument looks like. -/
inductive Shape where
  /-- Two hyphens alone: what follows holds no options. -/
  | terminator
  /-- An option by its name, with what stands behind an equals sign. -/
  | long (name : String) (attached : Option String)
  /-- Options by their letters. -/
  | short (letters : List Char)
  | plain

/-- A single hyphen is a plain argument. -/
def shape (argument : String) : Shape :=
  match argument.toList with
  | ['-', '-'] => .terminator
  | '-' :: '-' :: rest =>
    let name := rest.takeWhile (· ≠ '=')
    .long (String.ofList name)
      (match rest.drop name.length with
        | [] => none
        | _ :: attached => some (String.ofList attached))
  | '-' :: letter :: letters => .short (letter :: letters)
  | _ => .plain

/-! ### Outcomes -/

inductive Stop where
  /-- The version is asked for. -/
  | version
  /-- Help is asked for. -/
  | help
  /-- The command line is wrong; the address is given where it is what is wrong. -/
  | usage (address : Option AddressFault)
  deriving DecidableEq

/-- The options that take a value. -/
inductive Valued where
  | config
  | offset
  | length
  deriving DecidableEq

/-- What the options seen so far ask for. -/
structure Settings where
  config : Option String := none
  long : Bool := false
  offset : Option Nat := none
  length : Option Nat := none
  /-- An option that still waits to be settled, with its value if that has been seen. -/
  pending : Option (Valued × Option String) := none
  deriving DecidableEq

/-- What is to be done. -/
inductive Task where
  | list (form : ProcessListing.Form)
  | peek (offset length : Nat)
  deriving DecidableEq

structure Plan where
  /-- The path of the system description; none for the built-in one. -/
  config : Option String
  task : Task
  deriving DecidableEq

/-! ### Settling options -/

namespace Settings

def isSet (settings : Settings) : Valued → Bool
  | .config => settings.config.isSome
  | .offset => settings.offset.isSome
  | .length => settings.length.isSome

/-- Gives an option its value. No option may be given twice, and a path may not be empty. -/
def assign (settings : Settings) (option : Valued) (value : String) : Except Stop Settings :=
  if settings.isSet option then .error (.usage none)
  else
    match option with
    | .config =>
      if value.isEmpty then .error (.usage none)
      else .ok { settings with config := some value }
    | .offset =>
      match parseAddress value with
      | .ok address => .ok { settings with offset := some address }
      | .error fault => .error (.usage (some fault))
    | .length =>
      match Numeral.read 10 addressLimit value.toList with
      | .ok length => .ok { settings with length := some length }
      | .error _ => .error (.usage none)

/-- Settles the option that waits. -/
def settle (settings : Settings) : Except Stop Settings :=
  match settings.pending with
  | none => .ok settings
  | some (_, none) => .error (.usage none)
  | some (option, some value) => { settings with pending := none }.assign option value

/-- An option that takes a value comes up, with its value or before it. -/
def meet (settings : Settings) (option : Valued) (attached : Option String) :
    Except Stop Settings := do
  let settings ← settings.settle
  match attached with
  | some value => settings.assign option value
  | none => return { settings with pending := some (option, none) }

/-- An argument that is the value an option waits for, if one does. -/
def fill (settings : Settings) (argument : String) : Option Settings :=
  match settings.pending with
  | some (option, none) => some { settings with pending := some (option, some argument) }
  | _ => none

def setLong (settings : Settings) : Except Stop Settings := do
  let settings ← settings.settle
  if settings.long then throw (.usage none)
  return { settings with long := true }

/-- An option that ends the reading comes up. -/
def halt (settings : Settings) (stop : Stop) : Except Stop Settings := do
  let _ ← settings.settle
  throw stop

end Settings

/-! ### The options of `peek` -/

namespace Peek

def option? : String → Option Valued
  | "config" => some .config
  | "offset" => some .offset
  | "len" => some .length
  | _ => none

def meetLong (settings : Settings) (name : String) (attached : Option String) :
    Except Stop Settings :=
  match option? name with
  | some option => settings.meet option attached
  | none =>
    if name = "help" ∧ attached = none then settings.halt .help else .error (.usage none)

def meetLetters (settings : Settings) : List Char → Except Stop Settings
  | [] => .ok settings
  | 'h' :: _ => settings.halt .help
  | _ => .error (.usage none)

def read (settings : Settings) : List String → Except Stop Settings
  | [] => settings.settle
  | argument :: rest =>
    match shape argument with
    | .terminator => if rest.isEmpty then settings.settle else .error (.usage none)
    | .long name attached =>
      match meetLong settings name attached with
      | .ok settings => read settings rest
      | .error stop => .error stop
    | .short letters =>
      match meetLetters settings letters with
      | .ok settings => read settings rest
      | .error stop => .error stop
    | .plain =>
      match settings.fill argument with
      | some settings => read settings rest
      | none => .error (.usage none)

/-- The length of a dump that is given none. -/
def defaultLength : Nat := 16

end Peek

/-! ### The options of the program -/

def meetLong (settings : Settings) (name : String) (attached : Option String) :
    Except Stop Settings :=
  if name = "config" then settings.meet .config attached
  else if attached ≠ none then .error (.usage none)
  else if name = "long" then settings.setLong
  else if name = "version" then settings.halt .version
  else if name = "help" then settings.halt .help
  else .error (.usage none)

def meetLetters (settings : Settings) : List Char → Except Stop Settings
  | [] => .ok settings
  | letter :: letters =>
    if letter = 'l' then
      match settings.setLong with
      | .ok settings => meetLetters settings letters
      | .error stop => .error stop
    else if letter = 'V' then settings.halt .version
    else if letter = 'h' then settings.halt .help
    else .error (.usage none)

/-- The outcome of `help` before these arguments. No more than one may follow, and it has to be the
name of a command, `help` among them. -/
def helpOn : List String → Stop
  | [] | ["peek"] | ["help"] => .help
  | _ => .usage none

/-- The settings of the program, and the arguments of `peek` if that is asked for. -/
def read (settings : Settings) : List String → Except Stop (Settings × Option (List String))
  | [] => .ok (settings, none)
  | argument :: rest =>
    match shape argument with
    | .terminator => if rest.isEmpty then .ok (settings, none) else .error (.usage none)
    | .long name attached =>
      match meetLong settings name attached with
      | .ok settings => read settings rest
      | .error stop => .error stop
    | .short letters =>
      match meetLetters settings letters with
      | .ok settings => read settings rest
      | .error stop => .error stop
    | .plain =>
      match settings.fill argument with
      | some settings => read settings rest
      | none =>
        if argument = "peek" then .ok (settings, some rest)
        else if argument = "help" then .error (helpOn rest)
        else .error (.usage none)

/-- Reads the command line, given the path from the environment. A path behind `peek` goes before
one in front of it, and either goes before that from the environment. -/
def plan (environment : Option String) (arguments : List String) : Except Stop Plan := do
  let (settings, command) ← read {} arguments
  match command with
  | none =>
    let settings ← settings.settle
    if settings.config = none ∧ environment = some "" then throw (.usage none)
    return {
      config := settings.config <|> environment
      task := .list (if settings.long then .long else .short) }
  | some arguments =>
    let peek ← Peek.read {} arguments
    if peek.config = none ∧ environment = some "" then throw (.usage none)
    match peek.offset with
    | none => throw (.usage none)
    | some offset =>
      let settings ← settings.settle
      return {
        config := peek.config <|> settings.config <|> environment
        task := .peek offset (peek.length.getD Peek.defaultLength) }

end SixthEdition.CommandLine
