/-
This file proves how far the rows of the long listing keep to the columns of its
titles. A title and the fields under it are padded to the same width, and
nothing is ever cut. So a row keeps to the columns until one of its fields is
too long, and then all that stands behind this field moves to the right.

In the listing of a described system only one field can be too long. Most widths
are those of the longest number that a record can hold, a size is always shown
as eight clicks, and the unit of a terminal has one digit. But the nice value, a
signed byte like the priority, has one character less than the priority. That is
too few for a minus sign and three digits: below -99 neither the terminal nor
the command starts under its title.
-/

import SixthEdition.Proofs.CoreLayout
import SixthEdition.Proofs.DescribedCommands
import SixthEdition.Proofs.PrintableListing

namespace SixthEdition

/-! ### Numerals of a width -/

namespace Numeral

variable {width number : Nat}

theorem length_decimal_le_iff (positive : 0 < width) :
    (decimal number).length ≤ width ↔ number < 10 ^ width :=
  Nat.length_toDigits_le_iff (by decide) positive

theorem length_octal_le_iff (positive : 0 < width) :
    (octal number).length ≤ width ↔ number < 8 ^ width :=
  Nat.length_toDigits_le_iff (by decide) positive

/-- The minus sign takes the place of a digit. -/
theorem length_signed_le_iff (positive : 0 < width) (number : Int) :
    (signed number).length ≤ width + 1 ↔
      -((10 ^ width : Nat) : Int) < number ∧ number < (10 ^ (width + 1) : Nat) := by
  have short : 0 < 10 ^ width := Nat.pow_pos (by decide)
  have long : 0 < 10 ^ (width + 1) := Nat.pow_pos (by decide)
  rw [signed]
  split
  case isTrue negative =>
    rw [List.length_cons, Nat.add_le_add_iff_right, length_decimal_le_iff positive]
    omega
  case isFalse natural =>
    rw [length_decimal_le_iff (Nat.succ_pos width)]
    omega

end Numeral

namespace ProcessListing

/-! ### Columns -/

/-- The widths of the fields of a line. The last one is not padded and is left out. -/
def widths (fields : List (List Char)) : List Nat :=
  fields.dropLast.map List.length

/-- The position at which a field starts. In front of it are the fields before it, each with a
blank behind it. -/
def start (fields : List (List Char)) (place : Nat) : Nat :=
  ((widths fields).take place).sum + place

/-- A field lies within the columns that its title is padded to. Both end in front of the blank
behind which the next field and the next title start. -/
def LiesUnder (titles fields : List (List Char)) (place : Nat) : Prop :=
  start titles place ≤ start fields place ∧ start fields (place + 1) ≤ start titles (place + 1)

instance (titles fields : List (List Char)) (place : Nat) :
    Decidable (LiesUnder titles fields place) :=
  inferInstanceAs (Decidable (_ ∧ _))

/-- What stands in a line at columns of given widths, and at last all that is left of it. -/
def cut : List Nat → List Char → List (List Char)
  | [], line => [line]
  | width :: rest, line => line.take width :: cut rest (line.drop (width + 1))

theorem widths_cons_cons (first second : List Char) (rest : List (List Char)) :
    widths (first :: second :: rest) = first.length :: widths (second :: rest) := rfl

theorem exists_field_of_widths {fields : List (List Char)} {place width : Nat}
    (here : (widths fields)[place]? = some width) :
    ∃ field, fields[place]? = some field ∧ field.length = width := by
  rw [widths, List.getElem?_map, Option.map_eq_some_iff] at here
  obtain ⟨field, found, length⟩ := here
  rw [List.getElem?_dropLast, Option.ite_none_right_eq_some] at found
  exact ⟨field, found.2, length⟩

theorem row_cons_cons (first second : List Char) (rest : List (List Char)) :
    row (first :: second :: rest) = first ++ ' ' :: row (second :: rest) := by
  rw [row, List.intercalate_cons_cons, List.append_assoc, List.singleton_append, row]

theorem start_succ (first second : List Char) (rest : List (List Char)) (place : Nat) :
    start (first :: second :: rest) (place + 1) =
      first.length + 1 + start (second :: rest) place := by
  rw [start, start, widths_cons_cons, List.take_succ_cons, List.sum_cons]
  omega

/-- A line, from the position on at which a field starts, is the field and those behind it. -/
theorem drop_start_row {fields : List (List Char)} {place : Nat} (inside : place < fields.length) :
    (row fields).drop (start fields place) = row (fields.drop place) := by
  induction place generalizing fields with
  | zero => rfl
  | succ place inductionHypothesis =>
    match fields, inside with
    | first :: second :: rest, inside =>
      rw [start_succ, row_cons_cons, ← List.drop_drop, ← List.drop_drop, List.drop_left,
        List.drop_succ_cons, List.drop_succ_cons]
      exact inductionHypothesis (Nat.lt_of_succ_lt_succ inside)

/-- The widths of its own fields cut a line into them. -/
theorem cut_widths_row {fields : List (List Char)} (nonempty : fields ≠ []) :
    cut (widths fields) (row fields) = fields := by
  induction fields with
  | nil => exact absurd rfl nonempty
  | cons first rest inductionHypothesis =>
    cases rest with
    | nil => exact congrArg (fun line => [line]) (List.intercalate_singleton ..)
    | cons second rest =>
      have own := inductionHypothesis (List.cons_ne_nil second rest)
      rw [widths_cons_cons, row_cons_cons, cut, List.take_left, ← List.drop_drop, List.drop_left,
        List.drop_succ_cons, List.drop_zero, own]

/-- No more stands in a column than its width. -/
theorem length_le_of_cut {columns : List Nat} {line cell : List Char} {place width : Nat}
    (found : (cut columns line)[place]? = some cell) (here : columns[place]? = some width) :
    cell.length ≤ width := by
  induction columns generalizing line place with
  | nil => cases here
  | cons first rest inductionHypothesis =>
    cases place with
    | zero =>
      obtain rfl := Option.some.inj found
      obtain rfl := Option.some.inj here
      exact List.length_take_le ..
    | succ place => exact inductionHypothesis found here

/-! ### A field that is too long -/

theorem sum_modify (sizes : List Nat) (place extra : Nat) :
    (sizes.modify place (· + extra)).sum =
      sizes.sum + if place < sizes.length then extra else 0 := by
  induction sizes generalizing place with
  | nil => simp
  | cons size rest inductionHypothesis =>
    cases place with
    | zero =>
      rw [List.modify_zero_cons, List.sum_cons, List.sum_cons, List.length_cons,
        if_pos (Nat.succ_pos _)]
      exact Nat.add_right_comm ..
    | succ place =>
      rw [List.modify_succ_cons, List.sum_cons, List.sum_cons, inductionHypothesis, Nat.add_assoc]
      simp only [List.length_cons, Nat.succ_lt_succ_iff]

section Wider

variable {titles fields : List (List Char)} {place extra : Nat}
  (wider : widths fields = (widths titles).modify place (· + extra))
  (inside : place < (widths titles).length)

include wider inside

/-- What stands behind the field that is too long starts so much farther to the right. -/
theorem start_of_wider (other : Nat) :
    start fields other = start titles other + if place < other then extra else 0 := by
  have reached : place < ((widths titles).take other).length ↔ place < other := by
    rw [List.length_take]
    omega
  rw [start, start, wider, List.take_modify, sum_modify, if_congr reached rfl rfl]
  exact Nat.add_right_comm ..

theorem liesUnder_iff_of_wider (other : Nat) :
    LiesUnder titles fields other ↔ other < place ∨ extra = 0 := by
  rw [LiesUnder, start_of_wider wider inside, start_of_wider wider inside]
  split <;> split <;> omega

/-- The columns of the titles cut a line into its fields only if none is too long. -/
theorem cut_eq_iff_of_wider : cut (widths titles) (row fields) = fields ↔ extra = 0 := by
  constructor
  · intro whole
    have column : (widths titles)[place]? = some (widths titles)[place] :=
      List.getElem?_eq_getElem inside
    have tooLong : (widths fields)[place]? = some ((widths titles)[place] + extra) := by
      rw [wider, List.getElem?_modify_eq, column]
      rfl
    obtain ⟨field, found, length⟩ := exists_field_of_widths tooLong
    rw [← whole] at found
    have short := length_le_of_cut found column
    omega
  · rintro rfl
    have same : widths fields = widths titles := wider.trans (List.modify_id ..)
    have nonempty : fields ≠ [] := by
      rintro rfl
      rw [← same] at inside
      exact Nat.not_lt_zero place inside
    rw [← same]
    exact cut_widths_row nonempty

end Wider

/-! ### The fields of the long listing -/

/-- The place of a title, and of the fields under it. -/
def placeOf (title : String) : Nat :=
  (titles .long).findIdx fun padded => padded.filter (· ≠ ' ') = title.toList

/-- A row of the long listing is aligned if each field but the command lies under its title, if the
state, the terminal and the command start where their titles do, and if the columns of the titles
cut the row into its fields. -/
structure Aligned (fields : List (List Char)) : Prop where
  liesUnder : ∀ place < placeOf "CMD", LiesUnder (titles .long) fields place
  start_eq : ∀ title ∈ ["S", "TTY", "CMD"],
    start fields (placeOf title) = start (titles .long) (placeOf title)
  cut_eq : cut (widths (titles .long)) (row fields) = fields

theorem aligned_iff_of_wider {fields : List (List Char)} {extra : Nat}
    (wider : widths fields = (widths (titles .long)).modify (placeOf "NI") (· + extra)) :
    Aligned fields ↔ extra = 0 := by
  have inside : placeOf "NI" < (widths (titles .long)).length := by decide
  constructor
  · exact fun aligned => (cut_eq_iff_of_wider wider inside).mp aligned.cut_eq
  · intro fits
    refine ⟨fun place _ => (liesUnder_iff_of_wider wider inside place).mpr (.inr fits),
      fun title _ => ?_, (cut_eq_iff_of_wider wider inside).mpr fits⟩
    rw [start_of_wider wider inside, fits, ite_self]
    rfl

/-- How far a nice value sticks out of its column. -/
def overhang (record : ProcessRecord) : Nat :=
  if record.nice.toInt < -99 then 1 else 0

theorem overhang_eq_zero_iff (record : ProcessRecord) :
    overhang record = 0 ↔ -99 ≤ record.nice.toInt := by
  rw [overhang]
  split <;> omega

theorem length_right {width : Nat} {text : List Char} (fits : text.length ≤ width) :
    (right width text).length = width := by
  rw [right, Numeral.length_padLeft, Nat.max_eq_left fits]

theorem length_left {width : Nat} {text : List Char} (fits : text.length ≤ width) :
    (left width text).length = width := by
  rw [left, Numeral.length_padRight, Nat.max_eq_left fits]

theorem length_right_decimal {width number : Nat} (positive : 0 < width)
    (bounded : number < 10 ^ width) : (right width (Numeral.decimal number)).length = width :=
  length_right ((Numeral.length_decimal_le_iff positive).mpr bounded)

theorem length_right_octal {width number : Nat} (positive : 0 < width)
    (bounded : number < 8 ^ width) : (right width (Numeral.octal number)).length = width :=
  length_right ((Numeral.length_octal_le_iff positive).mpr bounded)

theorem length_right_nice (record : ProcessRecord) :
    (right 3 (Numeral.signed record.nice.toInt)).length = 3 + overhang record := by
  have low := record.nice.le_toInt
  have high := record.nice.toInt_lt
  have two := Numeral.length_signed_le_iff (show 0 < 2 by decide) record.nice.toInt
  have three := Numeral.length_signed_le_iff (show 0 < 3 by decide) record.nice.toInt
  rw [right, Numeral.length_padLeft, overhang]
  split <;> omega

theorem length_right_priority (record : ProcessRecord) :
    (right 4 (Numeral.signed record.priority.toInt)).length = 4 := by
  have low := record.priority.le_toInt
  have high := record.priority.toInt_lt
  refine length_right ((Numeral.length_signed_le_iff (by decide) _).mpr ?_)
  omega

theorem length_terminalText_le {entry : ProcessEntry}
    (unit : ∀ number, entry.terminal = some number → number.minor.toNat < 10 ^ 2) :
    (terminalText entry).length ≤ 5 := by
  rw [terminalText]
  split
  · next number shown =>
    have digits := (Numeral.length_decimal_le_iff (by decide)).mpr (unit number shown)
    rw [List.length_append]
    exact Nat.add_le_add_left digits 3
  · decide

theorem length_waitText_le (record : ProcessRecord) : (waitText record).length ≤ 6 := by
  rw [waitText]
  split
  · exact Nat.zero_le 6
  · have bounded := record.waitChannel.toNat_lt
    exact (Numeral.length_octal_le_iff (by decide)).mpr (by omega)

/-- Of all fields only the nice value can be too long, if the size and the unit of the terminal are
small enough. -/
theorem widths_fields {entry : ProcessEntry} (size : entry.record.size.toNat < 10 ^ 4)
    (unit : ∀ number, entry.terminal = some number → number.minor.toNat < 10 ^ 2) :
    widths (fields entry .long) =
      (widths (titles .long)).modify (placeOf "NI") (· + overhang entry.record) := by
  -- Three digits of either radix hold any byte, and five decimal or six octal ones any word.
  have byte (value : UInt8) : value.toNat < 10 ^ 3 ∧ value.toNat < 8 ^ 3 := by
    have bounded := value.toNat_lt
    omega
  have word (value : UInt16) : value.toNat < 10 ^ 5 ∧ value.toNat < 8 ^ 6 := by
    have bounded := value.toNat_lt
    omega
  have flags := length_right_octal (by decide) (byte entry.record.flags.bits).2
  have user := length_right_decimal (by decide) (byte entry.record.user).1
  have number (value : UInt16) := length_right_decimal (by decide) (word value).1
  have address := length_right_octal (by decide) (word entry.record.address).2
  have size := length_right_decimal (by decide) size
  have wait := length_right (length_waitText_le entry.record)
  have terminal := length_left (length_terminalText_le unit)
  simp only [fields, widths, List.dropLast_cons_cons, List.dropLast_singleton, List.map_cons,
    List.map_nil, List.length_singleton, flags, user, number, length_right_priority,
    length_right_nice, address, size, wait, terminal]
  rfl

end ProcessListing

/-! ### Described systems -/

namespace Tables

theorem lineFeed_not_mem_rows (tables : Tables) (form : ProcessListing.Form) :
    ∀ line ∈ ProcessListing.rows form tables.walk, '\n' ∉ line := by
  have plain : ∀ entry ∈ tables.walk, ProcessListing.HasPlainCommand entry := by
    rw [walk, List.forall_mem_map]
    exact fun place _ => tables.hasPlainCommand_walkEntry place.2 place.1
  intro line listed member
  exact absurd (ProcessListing.isPlainText_rows plain form line listed '\n' member) (by decide)

end Tables

namespace Description

variable {description : Description} {tables : Tables} (built : description.build = .ok tables)

include built

/-- Every slot of a system that was built is in use and has its row. -/
theorem walk_of_build : tables.walk =
    tables.processes.entries.mapIdx fun slot process => tables.walkEntry slot process := by
  refine Tables.walk_eq_of_used fun process member => ?_
  obtain ⟨described, -, click, describes⟩ := (laid_of_build built).2.exists_description member
  rw [describes.status_eq]
  exact described.status.number_ne_zero

theorem terminals_length_le_of_build : description.terminals.length ≤ AddressMap.terminalSlots :=
  terminals_size_of_build built ▸ tables.terminals.fits

theorem walk_getElem?_of_build {slot : Nat} {described : ProcessDescription}
    (here : description.processes[slot]? = some described) :
    ∃ process, tables.walk[slot]? = some (tables.walkEntry slot process) ∧
      described.Realizes process := by
  obtain ⟨process, click, found, describes⟩ := (laid_of_build built).2.exists_process here
  refine ⟨process, ?_, describes.realizes (terminals_length_le_of_build built)⟩
  rw [walk_of_build built, List.getElem?_mapIdx, found]
  rfl

/-- A terminal that is shown has a unit number below the number of terminals. -/
theorem unit_lt_of_build {address : UInt16} {number : DeviceNumber}
    (shown : tables.terminalNumber? address = some number) :
    number.minor.toNat < AddressMap.terminalSlots := by
  obtain ⟨unit, terminal, found, -, rfl⟩ := Tables.terminalNumber?_eq_some_iff.mp shown
  have bounded : unit < description.terminals.length := by
    rw [← terminals_size_of_build built]
    exact (List.getElem?_eq_some_iff.mp found).1
  rw [terminal_of_build built (List.getElem?_eq_getElem bounded)] at found
  obtain rfl := Option.some.inj found
  rw [TerminalDescription.deviceNumber_terminal]
  exact Nat.lt_of_le_of_lt (Nat.mod_le unit 256)
    (Nat.lt_of_lt_of_le bounded (terminals_length_le_of_build built))

end Description

namespace ProcessListing

theorem widths_fields_walkEntry {description : Description} {tables : Tables}
    (built : description.build = .ok tables) (slot : Nat) (process : Process) :
    widths (fields (tables.walkEntry slot process) .long) =
      (widths (titles .long)).modify (placeOf "NI") (· + overhang process.record) := by
  -- Kernel memory shows every image as eight clicks long.
  have size : (tables.walkEntry slot process).record.size.toNat < 10 ^ 4 :=
    show (8 : UInt16).toNat < 10 ^ 4 by decide
  exact widths_fields size fun number shown =>
    Nat.lt_trans (Description.unit_lt_of_build built shown) (by decide)

end ProcessListing

namespace KernelReader

open ProcessListing

/-- The long listing of a system that was built from its description is a line of titles and one
row for each process that is described. A row is aligned exactly if the nice value of its process is
not below -99. In any other row the fields in front of the nice value still lie under their titles,
and all that stands behind it starts one position farther to the right than its title. -/
theorem long_listing_is_aligned_iff (description : Description) (tables : Tables)
    (built : description.build = .ok tables) :
    ∃ listed after,
      entries.run { switch := .standard, kernel := { tables } } = (.ok listed, after) ∧
      listed.length = description.processes.length ∧
      (render .long listed).toList = (rows .long listed).flatMap (· ++ ['\n']) ∧
      (∀ line ∈ rows .long listed, '\n' ∉ line) ∧
      (rows .long listed)[0]? = some (row (titles .long)) ∧
      ∀ (slot : Nat) (process : ProcessDescription),
        description.processes[slot]? = some process →
        ∃ entry shown, listed[slot]? = some entry ∧
          entry.record.id = process.id ∧ entry.record.nice = process.nice ∧
          shown = fields entry .long ∧ (rows .long listed)[slot + 1]? = some (row shown) ∧
          (Aligned shown ↔ -99 ≤ process.nice.toInt) ∧
          (∀ place < placeOf "CMD", LiesUnder (titles .long) shown place ↔
            place < placeOf "NI" ∨ -99 ≤ process.nice.toInt) ∧
          ∀ place ≤ placeOf "CMD",
            (row shown).drop (start shown place) = row (shown.drop place) ∧
            start shown place = start (titles .long) place +
              if placeOf "NI" < place ∧ process.nice.toInt < -99 then 1 else 0 := by
  refine ⟨tables.walk, _, entries_give ⟨rfl, rfl⟩, ?_, toList_render .long _,
    tables.lineFeed_not_mem_rows .long, rfl, ?_⟩
  · rw [Description.walk_of_build built, List.length_mapIdx]
    exact (Description.laid_of_build built).2.length_eq
  · intro slot process here
    obtain ⟨found, listed, realizes⟩ := Description.walk_getElem?_of_build built here
    have wider := widths_fields_walkEntry built slot found
    have inside : placeOf "NI" < (widths (titles .long)).length := by decide
    refine ⟨_, _, listed, realizes.id_eq, realizes.nice_eq, rfl, ?_, ?_, fun place _ => ?_,
      fun place known => ⟨drop_start_row (Nat.lt_succ_of_le known), ?_⟩⟩
    · rw [rows, List.getElem?_cons_succ, List.getElem?_map, listed]
      rfl
    · rw [aligned_iff_of_wider wider, overhang_eq_zero_iff, realizes.nice_eq]
    · rw [liesUnder_iff_of_wider wider inside, overhang_eq_zero_iff, realizes.nice_eq]
    · rw [start_of_wider wider inside, overhang, realizes.nice_eq, ite_and]

/-- The longest numbers that a description can give, with the lowest nice value that fits, and
the lowest of all in the row below. -/
theorem long_listing_is_aligned_iff_of_extreme_values :
    let description : Description :=
      { terminals := List.replicate 9 {}
        processes :=
          [{ id := 65535, parent := 65535, user := 255, flags := 255, priority := -128, nice := -99,
             terminal := some 8, waitChannel := 65535, imageSize := 64 },
            { id := 2, nice := -128, imageSize := 64 }] }
    ∃ tables listed after first second, description.build = .ok tables ∧
      entries.run { switch := .standard, kernel := { tables } } = (.ok listed, after) ∧
      listed[0]? = some first ∧ Aligned (fields first .long) ∧
      listed[1]? = some second ∧ ¬ Aligned (fields second .long) ∧
      start (titles .long) (placeOf "TTY") = 50 ∧ start (fields first .long) (placeOf "TTY") = 50 ∧
      start (fields second .long) (placeOf "TTY") = 51 := by
  intro description
  obtain ⟨tables, built⟩ : ∃ tables, description.build = .ok tables := ⟨_, rfl⟩
  obtain ⟨listed, after, run, -, -, -, -, each⟩ :=
    long_listing_is_aligned_iff description tables built
  obtain ⟨first, _, here, -, -, rfl, -, aligned, -, starts⟩ := each 0 _ rfl
  obtain ⟨second, _, there, -, -, rfl, -, moved, -, behind⟩ := each 1 _ rfl
  refine ⟨tables, listed, after, first, second, built, run, here, aligned.mpr (by decide), there,
    fun straight => absurd (moved.mp straight) (by decide), by decide, ?_, ?_⟩
  · rw [(starts _ (by decide)).2]
    decide
  · rw [(behind _ (by decide)).2]
    decide

/-- A nice value of three digits and a sign passes the column of its title, and the terminal and
the command behind it do not start under their titles. -/
theorem long_listing_shifted_by_low_nice :
    ∃ (tables : Tables) (entry : ProcessEntry) (after : KernelReader),
      ({ processes := [{ id := 1, nice := -100, imageSize := 64 }] } : Description).build =
        .ok tables ∧
      entries.run { switch := .standard, kernel := { tables } } = (.ok [entry], after) ∧
      render .long [entry] =
        "  F S UID   PID  PPID  PRI  NI   ADDR   SZ  WCHAN TTY   CMD\n" ++
        "  1 S   0     1     0    0 -100    100    8        ?     ?\n" ∧
      ¬ LiesUnder (titles .long) (fields entry .long) (placeOf "NI") ∧
      start (titles .long) (placeOf "TTY") = 50 ∧
      start (fields entry .long) (placeOf "TTY") = 51 ∧
      start (titles .long) (placeOf "CMD") = 56 ∧
      start (fields entry .long) (placeOf "CMD") = 57 := by
  refine ⟨_, _, _, rfl, entries_give ⟨rfl, rfl⟩, ?_, ?_, by decide, ?_, by decide, ?_⟩
  · decide +kernel
  · decide +kernel
  · decide +kernel
  · decide +kernel

end KernelReader

end SixthEdition
