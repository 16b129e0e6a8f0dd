/-
This file proves that the two kernel records survive being written out: reading
the fields of a written record gives the record back. A table of records is one
byte string, which falls into its records again when it is cut into rows of
their width; rows of zeros behind the table read as unused records.
-/

import SixthEdition.Process.Record
import SixthEdition.Terminal.Header

namespace SixthEdition

/-! ### One record -/

namespace ProcessRecord

@[simp] theorem length_toBytes (record : ProcessRecord) :
    record.toBytes.length = RecordKind.process.size := rfl

theorem fields_toBytes (record : ProcessRecord) : fields record.toBytes = record := by
  simp only [toBytes, Word.toBytes, List.cons_append, List.nil_append]
  -- Each field is looked up at its place in the list of all bytes.
  simp only [fields, Bytes.wordAt, Bytes.byteAt, List.getD_cons_succ, List.getD_cons_zero,
    Nat.reduceAdd, Word.ofBytes_toBytes, Int8.toInt8_toUInt8]

theorem ofBytes_toBytes (record : ProcessRecord) : ofBytes record.toBytes = .ok record := by
  rw [ofBytes, RecordKind.decode, if_pos record.length_toBytes, fields_toBytes]

/-- The record that a row of zeros stands for. -/
def unused : ProcessRecord := {}

theorem toBytes_unused : unused.toBytes = List.replicate RecordKind.process.size 0 := rfl

end ProcessRecord

namespace Terminal.Header

@[simp] theorem length_toBytes (header : Header) :
    header.toBytes.length = RecordKind.terminal.size := rfl

theorem fields_toBytes (header : Header) : fields header.toBytes = header := by
  simp only [toBytes, QueueHeader.toBytes, Word.toBytes, List.cons_append, List.nil_append]
  simp only [fields, QueueHeader.fieldsAt, Bytes.wordAt, Bytes.byteAt, List.getD_cons_succ,
    List.getD_cons_zero, Nat.reduceAdd, Word.ofBytes_toBytes, Int16.toInt16_toUInt16]

theorem ofBytes_toBytes (header : Header) : ofBytes header.toBytes = .ok header := by
  rw [ofBytes, RecordKind.decode, if_pos header.length_toBytes, fields_toBytes]

end Terminal.Header

/-! ### A table of records -/

namespace Bytes

/-- What a string is fitted to is also a prefix of it with enough zeros behind it. -/
theorem fit_eq_take (length : Nat) (bytes : Bytes) :
    bytes.fit length = (bytes ++ List.replicate length 0).take length := by
  rw [Bytes.fit, List.take_append, List.take_replicate]
  congr 2
  omega

theorem rows_nil (width : Nat) : rows width [] = [] := by
  cases width with
  | zero => rw [rows]
  | succ width => rw [rows]; exact Nat.succ_ne_zero width

/-- The first row is cut off whole. -/
theorem rows_append (row rest : Bytes) (positive : row ≠ []) :
    (row ++ rest).rows row.length = row :: rest.rows row.length := by
  cases row with
  | nil => exact absurd rfl positive
  | cons first others =>
    rw [List.length_cons, List.cons_append, rows, List.take_left, List.drop_left]

/-- Rows of one width are what their concatenation is cut into. -/
theorem rows_flatten (width : Nat) (positive : 0 < width) (table : List Bytes)
    (wide : ∀ row ∈ table, row.length = width) : rows width table.flatten = table := by
  induction table with
  | nil => exact rows_nil width
  | cons row rest inductionHypothesis =>
    obtain ⟨first, others⟩ := List.forall_mem_cons.mp wide
    have cut := rows_append row rest.flatten (List.ne_nil_of_length_pos (first ▸ positive))
    rw [first] at cut
    rw [List.flatten_cons, cut, inductionHypothesis others]

/-- A string that is as long as some number of rows is cut into full rows. -/
theorem length_of_mem_rows {width count : Nat} {bytes row : Bytes}
    (whole : bytes.length = count * width) (member : row ∈ bytes.rows width) :
    row.length = width := by
  fun_induction rows width bytes generalizing count with
  | case1 => cases member
  | case2 => cases member
  | case3 width first rest inductionHypothesis =>
    -- A string that is not empty is at least one row long.
    obtain ⟨fewer, rfl⟩ := Nat.exists_eq_succ_of_ne_zero (show count ≠ 0 by
      rintro rfl
      rw [Nat.zero_mul] at whole
      cases whole)
    rw [List.length_cons, Nat.succ_mul, Nat.succ_eq_add_one] at whole
    have long : width ≤ rest.length := by omega
    rcases List.mem_cons.mp member with rfl | later
    · rw [List.length_cons, List.length_take, Nat.min_eq_left long]
    · refine @inductionHypothesis fewer ?_ later
      rw [List.length_drop]
      omega

/-- A row is found in the concatenation at as many widths as there are rows before it. -/
theorem row_flatten (width : Nat) (table : List Bytes) (wide : ∀ row ∈ table, row.length = width)
    (slot : Nat) (row : Bytes) (found : table[slot]? = some row) :
    (table.flatten.drop (width * slot)).take width = row := by
  induction table generalizing slot with
  | nil => cases found
  | cons first rest inductionHypothesis =>
    obtain ⟨firstWide, others⟩ := List.forall_mem_cons.mp wide
    cases slot with
    | zero =>
      obtain rfl := Option.some.inj found
      rw [Nat.mul_zero, List.drop_zero, List.flatten_cons, ← firstWide, List.take_left]
    | succ slot =>
      rw [List.flatten_cons, Nat.mul_succ, Nat.add_comm, ← List.drop_drop, ← firstWide,
        List.drop_left, firstWide]
      exact inductionHypothesis others slot found

end Bytes

namespace ProcessRecord

theorem wide_toBytes (records : List ProcessRecord) :
    ∀ row ∈ records.map toBytes, row.length = RecordKind.process.size := by
  intro row member
  obtain ⟨record, -, rfl⟩ := List.mem_map.mp member
  exact record.length_toBytes

theorem length_flatten (records : List ProcessRecord) :
    (records.map toBytes).flatten.length = records.length * RecordKind.process.size := by
  induction records with
  | nil => rfl
  | cons record rest inductionHypothesis =>
    rw [List.map_cons, List.flatten_cons, List.length_append, length_toBytes,
      inductionHypothesis, List.length_cons, Nat.succ_mul, Nat.add_comm]

/-- The records, one after the other, with unused slots up to a number of slots. -/
theorem fit_flatten (records : List ProcessRecord) (slots : Nat) (fits : records.length ≤ slots) :
    Bytes.fit (slots * RecordKind.process.size) (records.map toBytes).flatten =
      ((records ++ List.replicate (slots - records.length) unused).map toBytes).flatten := by
  have inside : (records.map toBytes).flatten.length ≤ slots * RecordKind.process.size := by
    rw [length_flatten]
    exact Nat.mul_le_mul_right _ fits
  rw [Bytes.fit, List.take_of_length_le inside, length_flatten, ← Nat.sub_mul,
    ← List.flatten_replicate_replicate, List.map_append, List.flatten_append, List.map_replicate,
    toBytes_unused]

/-- Rows of the right width are all read, whatever is in them. -/
theorem mapM_ofBytes_of_wide {rows : List Bytes}
    (wide : ∀ row ∈ rows, row.length = RecordKind.process.size) :
    rows.mapM ofBytes = .ok (rows.map fields) := by
  induction rows with
  | nil => rfl
  | cons row rest inductionHypothesis =>
    obtain ⟨first, others⟩ := List.forall_mem_cons.mp wide
    rw [List.mapM_cons, ofBytes, RecordKind.decode, if_pos first, inductionHypothesis others]
    rfl

theorem mapM_ofBytes (records : List ProcessRecord) :
    (records.map toBytes).mapM ofBytes = .ok records := by
  have same : fields ∘ toBytes = fun record => record := funext fields_toBytes
  rw [mapM_ofBytes_of_wide (wide_toBytes records), List.map_map, same, List.map_id']

/-- Cut into rows and read back, a table gives its records. -/
theorem mapM_ofBytes_rows (records : List ProcessRecord) :
    (Bytes.rows RecordKind.process.size (records.map toBytes).flatten).mapM ofBytes =
      .ok records := by
  rw [Bytes.rows_flatten _ (by decide) _ (wide_toBytes records), mapM_ofBytes]

/-- The bytes at the place of one record in a table are that record. -/
theorem ofBytes_row (records : List ProcessRecord) (slot : Nat) (record : ProcessRecord)
    (found : records[slot]? = some record) :
    ofBytes ((((records.map toBytes).flatten.drop (RecordKind.process.size * slot))).take
      RecordKind.process.size) = .ok record := by
  rw [Bytes.row_flatten _ _ (wide_toBytes records) slot record.toBytes
    (by rw [List.getElem?_map, found]; rfl), ofBytes_toBytes]

end ProcessRecord

end SixthEdition
