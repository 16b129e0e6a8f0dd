/-
This file holds the two forms in which a description writes a record. One is an
object with the record's field names as keys, each at most once and in any
order; the other is an array of the fields in their order, which may end early.
Either way a field that is not there is left to its default.
-/

import SixthEdition.Json.Basic

namespace SixthEdition.Description

/-- The fields of a record by their places, or none if the value is no such record. -/
def slots? (names : List String) : Json → Option (List (Option Json))
  | .object fields =>
    let keys := fields.map (·.1)
    if keys.all names.contains ∧ keys.Nodup then
      some (names.map fun name => List.lookup name fields)
    else none
  | .array items =>
    if items.length ≤ names.length then
      some (items.map some ++ List.replicate (names.length - items.length) none)
    else none
  | _ => none

def descriptionFields : List String :=
  ["terminals", "procs"]

def terminalFields : List String :=
  ["flags", "speeds"]

def processFields : List String :=
  ["pid", "ppid", "uid", "stat", "flags", "pri", "nice", "tty", "args", "mem_size", "wchan"]

end SixthEdition.Description
