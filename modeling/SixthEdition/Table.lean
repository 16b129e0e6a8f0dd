/-
This file holds tables of a fixed number of slots, filled from the first slot
on. An entry keeps its slot, and no table holds more entries than it has slots.
-/

namespace SixthEdition

structure Table (Entry : Type) (slots : Nat) where
  entries : List Entry
  fits : entries.length ≤ slots

namespace Table

variable {Entry : Type} {slots : Nat}

@[ext] theorem ext {first second : Table Entry slots} (same : first.entries = second.entries) :
    first = second := by
  cases first
  cases second
  cases same
  rfl

def empty : Table Entry slots :=
  ⟨[], Nat.zero_le slots⟩

def size (table : Table Entry slots) : Nat :=
  table.entries.length

def get? (table : Table Entry slots) (slot : Nat) : Option Entry :=
  table.entries[slot]?

/-- The slot that a further entry takes and the table with it, unless all slots are taken. -/
def add? (entry : Entry) (table : Table Entry slots) : Option (Nat × Table Entry slots) :=
  if room : table.entries.length < slots then
    some (table.entries.length,
      ⟨table.entries ++ [entry], by rw [List.length_append]; exact room⟩)
  else none

/-- Changes one entry in place; a slot without an entry stays without. -/
def modify (slot : Nat) (change : Entry → Entry) (table : Table Entry slots) :
    Table Entry slots :=
  ⟨table.entries.modify slot change, by rw [List.length_modify]; exact table.fits⟩

@[simp] theorem entries_empty : (empty : Table Entry slots).entries = [] := rfl

theorem add?_eq_none_iff (entry : Entry) (table : Table Entry slots) :
    table.add? entry = none ↔ table.size = slots := by
  have fits := table.fits
  simp only [add?, size, dite_eq_right_iff, reduceCtorEq, imp_false]
  omega

theorem exists_add? {table : Table Entry slots} (room : table.size < slots) (entry : Entry) :
    ∃ after, table.add? entry = some (table.size, after) :=
  ⟨_, dif_pos room⟩

/-- An entry goes into the first free slot and leaves all others as they are. -/
theorem entries_of_add? {entry : Entry} {table after : Table Entry slots} {slot : Nat}
    (added : table.add? entry = some (slot, after)) :
    slot = table.size ∧ after.entries = table.entries ++ [entry] := by
  unfold add? at added
  split at added
  · obtain ⟨rfl, rfl⟩ := Prod.mk.inj (Option.some.inj added)
    exact ⟨rfl, rfl⟩
  · cases added

theorem size_of_entries_append {table after : Table Entry slots} {entry : Entry}
    (entries : after.entries = table.entries ++ [entry]) : after.size = table.size + 1 := by
  rw [size, size, entries, List.length_append, List.length_singleton]

@[simp] theorem entries_modify (slot : Nat) (change : Entry → Entry) (table : Table Entry slots) :
    (table.modify slot change).entries = table.entries.modify slot change := rfl

@[simp] theorem size_modify (slot : Nat) (change : Entry → Entry) (table : Table Entry slots) :
    (table.modify slot change).size = table.size :=
  List.length_modify _ _ _

theorem get?_modify_self (slot : Nat) (change : Entry → Entry) (table : Table Entry slots) :
    (table.modify slot change).get? slot = (table.get? slot).map change := by
  rw [get?, get?, entries_modify, List.getElem?_modify_eq]
  rfl

theorem get?_modify_of_ne {slot other : Nat} (different : other ≠ slot) (change : Entry → Entry)
    (table : Table Entry slots) : (table.modify slot change).get? other = table.get? other := by
  rw [get?, get?, entries_modify, List.getElem?_modify_ne change _ (Ne.symm different)]

theorem get?_eq_none_iff (slot : Nat) (table : Table Entry slots) :
    table.get? slot = none ↔ table.size ≤ slot :=
  List.getElem?_eq_none_iff

end Table

end SixthEdition
