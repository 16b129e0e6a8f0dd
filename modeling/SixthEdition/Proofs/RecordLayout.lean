/-
This file proves that the two kernel records and the byte strings of their
lengths stand for each other one to one, and that neither half of a codec looks
or writes outside the record.

The fields of a record stand one behind the other, each a byte or a word. In
this order they can be written and read under a check, field by field, that the
field lies inside the string. The codecs go by fixed positions and check only
the length of the string. They agree with the checked passes, and these come to
the end of the record, and just to its end, without failing a check.
-/

import SixthEdition.Proofs.Records

namespace SixthEdition

/-! ### Fields under a check -/

inductive FieldWidth where
  | byte
  | word
  deriving DecidableEq

inductive RecordField where
  | byte (value : UInt8)
  | word (value : UInt16)
  deriving DecidableEq

namespace RecordField

def width : RecordField → FieldWidth
  | .byte _ => .byte
  | .word _ => .word

def toBytes : RecordField → Bytes
  | .byte value => [value]
  | .word value => Word.toBytes value

end RecordField

/-- The field of some width at a position, with the position behind it. None if the field does not
lie inside the string. -/
def FieldWidth.readAt? (bytes : Bytes) (position : Nat) : FieldWidth → Option (RecordField × Nat)
  | .byte => do
    let value ← bytes[position]?
    return (.byte value, position + 1)
  | .word => do
    let low ← bytes[position]?
    let high ← bytes[position + 1]?
    return (.word (Word.ofBytes low high), position + 2)

/-- The fields of some widths that stand one behind the other from a position on, with the position
behind the last of them. None if one of them does not lie inside the string. -/
def readFields? (bytes : Bytes) : Nat → List FieldWidth → Option (List RecordField × Nat)
  | position, [] => some ([], position)
  | position, width :: rest => do
    let (field, next) ← width.readAt? bytes position
    let (fields, last) ← readFields? bytes next rest
    return (field :: fields, last)

/-- Writes fields over a string, one behind the other from a position on, and gives the position
behind the last of them too. None if one of them would not lie inside the string. -/
def writeFields? : Nat → List RecordField → Bytes → Option (Bytes × Nat)
  | position, [], bytes => some (bytes, position)
  | position, field :: rest, bytes => do
    let written ← Bytes.overwrite? position field.toBytes bytes
    writeFields? (position + field.toBytes.length) rest written

/-- A field is read where it was written, whatever is around it. -/
theorem FieldWidth.readAt?_written (before : Bytes) (field : RecordField) (behind : Bytes) :
    field.width.readAt? (before ++ (field.toBytes ++ behind)) before.length =
      some (field, (before ++ field.toBytes).length) := by
  cases field with
  | byte value => simp [readAt?, RecordField.width, RecordField.toBytes]
  | word value =>
    simp [readAt?, RecordField.width, RecordField.toBytes, Word.toBytes, Word.ofBytes_toBytes]

/-- Fields are read where they were written, and the end of the last is the end of the string. -/
theorem readFields?_written (before : Bytes) (fields : List RecordField) :
    readFields? (before ++ fields.flatMap RecordField.toBytes) before.length
        (fields.map RecordField.width) =
      some (fields, (before ++ fields.flatMap RecordField.toBytes).length) := by
  induction fields generalizing before with
  | nil => rw [List.flatMap_nil, List.append_nil]; rfl
  | cons field rest inductionHypothesis =>
    have later := inductionHypothesis (before ++ field.toBytes)
    rw [List.append_assoc] at later
    rw [List.map_cons, List.flatMap_cons, readFields?, FieldWidth.readAt?_written]
    dsimp only [Option.bind_eq_bind, Option.bind_some]
    rw [later]
    rfl

theorem Bytes.overwrite?_append (before part bytes : Bytes) (fits : part.length ≤ bytes.length) :
    overwrite? before.length part (before ++ bytes) =
      some (before ++ (part ++ bytes.drop part.length)) := by
  rw [overwrite?, if_pos (by rw [List.length_append]; omega), List.take_left, List.drop_left,
    overlay]

/-- Fields can be written over a string of their length, and take all of it. -/
theorem writeFields?_over (before old : Bytes) (fields : List RecordField)
    (sized : old.length = (fields.flatMap RecordField.toBytes).length) :
    writeFields? before.length fields (before ++ old) =
      some (before ++ fields.flatMap RecordField.toBytes, (before ++ old).length) := by
  induction fields generalizing before old with
  | nil =>
    obtain rfl : old = [] := List.eq_nil_of_length_eq_zero sized
    rw [List.flatMap_nil, List.append_nil]
    rfl
  | cons field rest inductionHypothesis =>
    rw [List.flatMap_cons, List.length_append] at sized
    have fits : field.toBytes.length ≤ old.length := by omega
    have restSized : (old.drop field.toBytes.length).length =
        (rest.flatMap RecordField.toBytes).length := by
      rw [List.length_drop]
      omega
    have later := inductionHypothesis (before ++ field.toBytes) _ restSized
    rw [writeFields?, Bytes.overwrite?_append _ _ _ fits]
    dsimp only [Option.bind_eq_bind, Option.bind_some]
    rw [← List.length_append, ← List.append_assoc, later, List.flatMap_cons, List.append_assoc]
    congr 2
    simp only [List.length_append]
    omega

/-! ### Bytes by their positions -/

namespace Bytes

theorem toBytes_wordAt (bytes : Bytes) (position : Nat) :
    Word.toBytes (bytes.wordAt position) =
      [bytes.byteAt position, bytes.byteAt (position + 1)] :=
  Word.toBytes_ofBytes ..

/-- A string is made of the bytes at all its positions. -/
theorem map_byteAt_range (bytes : Bytes) :
    (List.range bytes.length).map bytes.byteAt = bytes := by
  refine List.ext_getElem (by simp) fun position _ inside => ?_
  simp [byteAt, inside]

end Bytes

/-! ### The two records -/

namespace ProcessRecord

/-- The fields of a record in the order in which they stand. -/
def inOrder (record : ProcessRecord) : List RecordField :=
  [.byte record.status, .byte record.flags.bits, .byte record.priority.toUInt8,
    .byte record.signal, .byte record.user, .byte record.residence, .byte record.cpu,
    .byte record.nice.toUInt8, .word record.terminal, .word record.id, .word record.parent,
    .word record.address, .word record.size, .word record.waitChannel, .word record.text]

def widths : List FieldWidth :=
  List.replicate 8 .byte ++ List.replicate 7 .word

/-- The fields that are read from a string of the right length are written as that string. -/
theorem toBytes_fields (bytes : Bytes) (sized : bytes.length = RecordKind.process.size) :
    (fields bytes).toBytes = bytes := by
  have listed : (fields bytes).toBytes =
      (List.range RecordKind.process.size).map bytes.byteAt := by
    simp only [toBytes, fields, Bytes.toBytes_wordAt, UInt8.toUInt8_toInt8]
    rfl
  rw [listed, ← sized, Bytes.map_byteAt_range]

theorem foldl_appendTo (written : Bytes) (records : List ProcessRecord) :
    records.foldl appendTo written = written ++ (records.map toBytes).flatten := by
  induction records generalizing written with
  | nil => exact (List.append_nil written).symm
  | cons record rest inductionHypothesis =>
    rw [List.foldl_cons, inductionHypothesis, List.map_cons, List.flatten_cons]
    exact List.append_assoc ..

end ProcessRecord

namespace Terminal

def QueueHeader.inOrder (queue : QueueHeader) : List RecordField :=
  [.word queue.count.toUInt16, .word queue.first, .word queue.last]

namespace Header

/-- The fields of a header in the order in which they stand. -/
def inOrder (header : Header) : List RecordField :=
  header.rawQueue.inOrder ++ header.canonicalQueue.inOrder ++ header.outputQueue.inOrder ++
    [.word header.modes.bits, .word header.address, .byte header.delimiters, .byte header.column,
      .byte header.erase, .byte header.kill, .byte header.state.bits, .byte header.scratch,
      .word header.speeds, .word header.device]

def widths : List FieldWidth :=
  List.replicate 11 .word ++ List.replicate 6 .byte ++ List.replicate 2 .word

/-- The fields that are read from a string of the right length are written as that string. -/
theorem toBytes_fields (bytes : Bytes) (sized : bytes.length = RecordKind.terminal.size) :
    (fields bytes).toBytes = bytes := by
  have listed : (fields bytes).toBytes =
      (List.range RecordKind.terminal.size).map bytes.byteAt := by
    simp only [toBytes, fields, QueueHeader.toBytes, QueueHeader.fieldsAt, Bytes.toBytes_wordAt,
      UInt16.toUInt16_toInt16]
    rfl
  rw [listed, ← sized, Bytes.map_byteAt_range]

end Header

end Terminal

/-! ### Exact codecs -/

namespace RecordKind

/-- The two halves of a record's codec fit each other and stay inside the record. Each record has
one string, each string of the right length is that of one record, and any other string is refused
by its length. The string of a record is what a checked pass writes over a record of any content,
and the record of a string of the right length is the one whose fields a checked pass reads from it;
both passes end where the record ends. -/
structure ExactCodec {Record : Type} (kind : RecordKind) (toBytes : Record → Bytes)
    (ofBytes : Bytes → Except RecordFault Record) (inOrder : Record → List RecordField)
    (widths : List FieldWidth) : Prop where
  record_eq : ∀ record, ofBytes (toBytes record) = .ok record
  bytes_eq : ∀ bytes, bytes.length = kind.size →
    ∃ record, ofBytes bytes = .ok record ∧ toBytes record = bytes
  refused : ∀ bytes, bytes.length ≠ kind.size → ofBytes bytes = .error ⟨kind, bytes.length⟩
  written : ∀ record content, content.length = kind.size →
    writeFields? 0 (inOrder record) content = some (toBytes record, kind.size)
  found : ∀ bytes record, ofBytes bytes = .ok record ↔
    bytes.length = kind.size ∧ readFields? bytes 0 widths = some (inOrder record, kind.size)

theorem eq_of_decode {Fields : Type} {kind : RecordKind} {fields : Bytes → Fields} {bytes : Bytes}
    {record : Fields} (accepted : kind.decode fields bytes = .ok record) :
    bytes.length = kind.size ∧ fields bytes = record := by
  rw [decode] at accepted
  split at accepted
  case isTrue whole => exact ⟨whole, Except.ok.inj accepted⟩
  case isFalse => cases accepted

section InOrder

variable {Record : Type} {kind : RecordKind} {toBytes : Record → Bytes} {fields : Bytes → Record}
  {inOrder : Record → List RecordField} {widths : List FieldWidth}
  (recordEq : ∀ record, fields (toBytes record) = record)
  (bytesEq : ∀ bytes, bytes.length = kind.size → toBytes (fields bytes) = bytes)
  (ordered : ∀ record, (inOrder record).flatMap RecordField.toBytes = toBytes record)
  (wide : ∀ record, (inOrder record).map RecordField.width = widths)

include bytesEq ordered wide

/-- A string is the written form of its record, in which the fields stand in order. -/
theorem readFields?_of_whole {bytes : Bytes} (whole : bytes.length = kind.size) :
    readFields? bytes 0 widths = some (inOrder (fields bytes), kind.size) := by
  have inside := readFields?_written [] (inOrder (fields bytes))
  rwa [wide, ordered, bytesEq bytes whole, List.nil_append, whole] at inside

include recordEq

/-- No other record has the fields that are read from a string. -/
theorem decode_eq_ok_iff_readFields? (bytes : Bytes) (record : Record) :
    kind.decode fields bytes = .ok record ↔
      bytes.length = kind.size ∧ readFields? bytes 0 widths = some (inOrder record, kind.size) := by
  constructor
  · intro accepted
    obtain ⟨whole, rfl⟩ := eq_of_decode accepted
    exact ⟨whole, readFields?_of_whole bytesEq ordered wide whole⟩
  · rintro ⟨whole, passed⟩
    rw [readFields?_of_whole bytesEq ordered wide whole] at passed
    have sameFields : inOrder (fields bytes) = inOrder record :=
      congrArg Prod.fst (Option.some.inj passed)
    have sameBytes : toBytes (fields bytes) = toBytes record := by
      rw [← ordered, ← ordered, sameFields]
    rw [decode, if_pos whole, ← recordEq record, ← sameBytes, recordEq]

/-- A codec that goes by positions is exact if its positions are those of its fields in order. -/
theorem exactCodec_of_inOrder (sized : ∀ record, (toBytes record).length = kind.size) :
    kind.ExactCodec toBytes (kind.decode fields) inOrder widths where
  record_eq record := by rw [decode, if_pos (sized record), recordEq]
  bytes_eq bytes whole := ⟨fields bytes, if_pos whole, bytesEq bytes whole⟩
  refused _ different := if_neg different
  written record content whole := by
    have filled := writeFields?_over [] content (inOrder record)
      (by rw [ordered, sized, whole])
    rwa [ordered, List.nil_append, List.nil_append, whole] at filled
  found := decode_eq_ok_iff_readFields? recordEq bytesEq ordered wide

end InOrder

end RecordKind

/-- Kernel records and byte strings of their lengths stand for each other one to one. For both
records, each record is read back from its bytes and each string of 22 or 32 bytes is that of the
record read from it, bits without a name included; any other string is refused with its length; and
neither reading nor writing leaves the record. Process records that are appended to any string
follow it one behind the other, and cut into pieces of 22 bytes they are read back in order. -/
theorem records_are_their_bytes :
    RecordKind.process.ExactCodec ProcessRecord.toBytes ProcessRecord.ofBytes
      ProcessRecord.inOrder ProcessRecord.widths ∧
    RecordKind.terminal.ExactCodec Terminal.Header.toBytes Terminal.Header.ofBytes
      Terminal.Header.inOrder Terminal.Header.widths ∧
    (RecordKind.process.size = 22 ∧ RecordKind.terminal.size = 32) ∧
    ∀ (written : Bytes) (records : List ProcessRecord),
      let table : Bytes := (records.map ProcessRecord.toBytes).flatten
      records.foldl ProcessRecord.appendTo written = written ++ table ∧
      (table.rows 22).mapM ProcessRecord.ofBytes = .ok records := by
  refine ⟨?process, ?terminal, ⟨rfl, rfl⟩, fun written records => ?table⟩
  case process =>
    exact RecordKind.exactCodec_of_inOrder ProcessRecord.fields_toBytes
      ProcessRecord.toBytes_fields (fun _ => rfl) (fun _ => rfl) ProcessRecord.length_toBytes
  case terminal =>
    exact RecordKind.exactCodec_of_inOrder Terminal.Header.fields_toBytes
      Terminal.Header.toBytes_fields (fun _ => rfl) (fun _ => rfl) Terminal.Header.length_toBytes
  case table =>
    exact ⟨ProcessRecord.foldl_appendTo written records, ProcessRecord.mapM_ofBytes_rows records⟩

end SixthEdition
