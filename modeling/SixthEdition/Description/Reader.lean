/-
This file holds the reader of system descriptions. A number has to be a JSON
integer in the range of its field; only a terminal's modes and a process's
terminal may be null; and a process has to have its number.
-/

import SixthEdition.Description.Basic
import SixthEdition.Description.Schema
import SixthEdition.Json.Reader

namespace SixthEdition.Description

/-! ### Single fields -/

/-- An integer from zero up to below a limit. -/
def natural? (limit : Nat) : Json → Option Nat
  | .integer value => if 0 ≤ value ∧ value < limit then some value.toNat else none
  | _ => none

def byte? (value : Json) : Option UInt8 :=
  (natural? UInt8.size value).map UInt8.ofNat

def word? (value : Json) : Option UInt16 :=
  (natural? UInt16.size value).map UInt16.ofNat

def size? (value : Json) : Option UInt64 :=
  (natural? UInt64.size value).map UInt64.ofNat

def signedByte? : Json → Option Int8
  | .integer value => if -128 ≤ value ∧ value < 128 then some (Int8.ofInt value) else none
  | _ => none

def string? : Json → Option String
  | .string value => some value
  | _ => none

/-- A list of what one reader takes. -/
def list? {Item : Type} (read : Json → Option Item) : Json → Option (List Item)
  | .array items => items.mapM read
  | _ => none

/-- What a reader takes, or null. -/
def nullable? {Item : Type} (read : Json → Option Item) : Json → Option (Option Item)
  | .null => some none
  | value => (read value).map some

/-- The word for a state, alone or as the one key of an object with the value null. -/
def status? : Json → Option ProcessStatus
  | .string word => ProcessStatus.ofWord? word
  | .object [(word, .null)] => ProcessStatus.ofWord? word
  | _ => none

/-- A field that has a default. -/
def orDefault {Item : Type} (default : Item) (read : Json → Option Item) :
    Option Json → Option Item
  | none => some default
  | some value => read value

/-! ### Records -/

def terminal? (value : Json) : Option TerminalDescription := do
  let [modes, speeds] ← slots? terminalFields value | none
  return {
    modes := ← orDefault none (nullable? word?) modes
    speeds := ← orDefault 0 word? speeds }

def process? (value : Json) : Option ProcessDescription := do
  let [some id, parent, user, status, flags, priority, nice, terminal, arguments, imageSize,
    waitChannel] ← slots? processFields value | none
  return {
    id := ← word? id
    parent := ← orDefault 0 word? parent
    user := ← orDefault 0 byte? user
    status := ← orDefault .sleep status? status
    flags := ← orDefault 0 byte? flags
    priority := ← orDefault 0 signedByte? priority
    nice := ← orDefault 0 signedByte? nice
    terminal := ← orDefault none (nullable? size?) terminal
    arguments := ← orDefault [] (list? string?) arguments
    imageSize := ← orDefault 4096 size? imageSize
    waitChannel := ← orDefault 0 word? waitChannel }

def ofJson? (value : Json) : Option Description := do
  let [terminals, processes] ← slots? descriptionFields value | none
  return {
    terminals := ← orDefault [] (list? terminal?) terminals
    processes := ← orDefault [] (list? process?) processes }

/-- The description that a text gives. -/
def parse? (text : String) : Option Description :=
  (Json.parse? text).bind ofJson?

end SixthEdition.Description
