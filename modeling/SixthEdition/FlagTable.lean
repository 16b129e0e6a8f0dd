/-
This file holds the declared bits of a flag word. A word may carry bits that
its table does not declare: they are kept wherever the word is stored, and the
table only says which bits have a name.
-/

namespace SixthEdition

/-- One declared bit of a word. -/
structure Flag where
  name : String
  mask : Nat
  deriving DecidableEq

/-- The declared bits of a word, in the order of their declaration. -/
structure FlagTable where
  flags : List Flag

namespace FlagTable

/-- All declared bits together. -/
def union (table : FlagTable) : Nat :=
  table.flags.foldl (fun bits flag => bits ||| flag.mask) 0

/-- The word without its undeclared bits. -/
def truncate (table : FlagTable) (bits : Nat) : Nat :=
  bits &&& table.union

/-- The word itself, provided that all its bits are declared. -/
def exactly? (table : FlagTable) (bits : Nat) : Option Nat :=
  if table.truncate bits = bits then some bits else none

/-- The names of the bits that are set. -/
def names (table : FlagTable) (bits : Nat) : List String :=
  (table.flags.filter fun flag => bits &&& flag.mask = flag.mask).map (·.name)

end FlagTable

end SixthEdition
