/-
This file says how the dump of a piece of kernel memory is read, and proves that
reading it gives back the bytes and the address of each row.

A line is read without regard to its length: the words between its blanks, up to
the first bar, are the address and the pairs, and the characters stand between
that bar and the last. No digit is a blank or a bar, so the blanks that fill up
a short row are lost in reading, and a bar among the characters does no harm.

An address is printed with seven octal digits or more, and its first digit tells
how it is taken when it is typed. All that kernel memory shows lies below the
addresses of seven digits, so there is always a zero in front.
-/

import SixthEdition.MemoryDump
import SixthEdition.Proofs.Addresses
import SixthEdition.Proofs.Reading

namespace SixthEdition

/-! ### Rows -/

namespace Bytes

theorem length_rows {width : Nat} (positive : 0 < width) (bytes : Bytes) :
    (bytes.rows width).length = (bytes.length + (width - 1)) / width := by
  fun_induction rows width bytes with
  | case1 => exact absurd positive (Nat.lt_irrefl 0)
  | case2 width =>
    rw [List.length_nil, List.length_nil, Nat.zero_add, Nat.div_eq_of_lt]
    exact Nat.sub_lt positive Nat.one_pos
  | case3 width first rest inductionHypothesis =>
    have behind : (rest.length - width + width) / (width + 1) = rest.length / (width + 1) := by
      by_cases long : width ≤ rest.length
      · rw [Nat.sub_add_cancel long]
      · have short : rest.length < width + 1 := by omega
        rw [Nat.sub_eq_zero_of_le (Nat.le_of_not_le long), Nat.zero_add, Nat.div_eq_of_lt short,
          Nat.div_eq_of_lt (Nat.lt_succ_self width)]
    rw [List.length_cons, inductionHypothesis positive, List.length_drop, List.length_cons,
      Nat.succ_eq_add_one, Nat.add_sub_cancel, behind, Nat.add_assoc, Nat.add_comm 1 width,
      Nat.add_div_right _ positive]

/-- Each row stands at as many widths as there are rows before it. -/
theorem rows_getElem? {width index : Nat} {bytes row : Bytes}
    (found : (bytes.rows width)[index]? = some row) :
    width * index < bytes.length ∧ row = (bytes.drop (width * index)).take width := by
  fun_induction rows width bytes generalizing index with
  | case1 | case2 => cases found
  | case3 width first rest inductionHypothesis =>
    cases index with
    | zero =>
      obtain rfl := Option.some.inj found
      exact ⟨Nat.succ_pos _, rfl⟩
    | succ index =>
      obtain ⟨inside, same⟩ := inductionHypothesis found
      have place : (width + 1) * (index + 1) = width + (width + 1) * index + 1 := by
        rw [Nat.mul_succ, Nat.add_comm, Nat.add_right_comm]
      rw [List.length_drop] at inside
      rw [Nat.succ_eq_add_one, place, List.length_cons, List.drop_succ_cons, same, List.drop_drop]
      exact ⟨by omega, rfl⟩

end Bytes

/-! ### Where kernel memory ends -/

namespace Device.Memory

/-- Every window ends below the addresses that need seven octal digits. -/
theorem add_count_le {tables : Tables} {offset length : Nat} {window : Window}
    (covers : Covers tables offset length window) (buffer : Bytes) :
    offset + (readWindow tables buffer window).count ≤ 8 ^ 6 := by
  cases window with
  | swapDevice =>
    obtain ⟨rfl, -⟩ := covers
    exact show 780 + 2 ≤ 8 ^ 6 by decide
  | processTable =>
    have few : tables.processes.size ≤ 50 := tables.processes.fits
    have size : RecordKind.process.size = 22 := rfl
    obtain rfl : offset = 2694 := covers
    show 2694 + (shownTable tables).length ≤ 8 ^ 6
    rw [length_shownTable, size]
    omega
  | image slot =>
    have few : tables.processes.size ≤ 50 := tables.processes.fits
    obtain ⟨bounded, rfl, -⟩ := covers
    show 4096 + 64 * slot + 512 ≤ 8 ^ 6
    omega
  | terminal unit =>
    have few : tables.terminals.size ≤ 9 := tables.terminals.fits
    obtain ⟨bounded, rfl, -⟩ := covers
    have size : (readWindow tables buffer (.terminal unit)).count ≤ 32 := by
      rw [readWindow]
      split
      · exact Nat.le_refl 32
      · exact Nat.zero_le 32
    omega

end Device.Memory

namespace MemoryDump

/-! ### How a dump is read -/

/-- The lines of a dump, each of which ends with a line feed. -/
def lines (dump : String) : List (List Char) :=
  (dump.toList.splitOn '\n').dropLast

/-- The words between blanks. -/
def wordsOf (text : List Char) : List (List Char) :=
  (text.splitOn ' ').filter (· ≠ [])

/-- The words in front of the first bar. -/
def words (line : List Char) : List (List Char) :=
  wordsOf (line.takeWhile (· ≠ '|'))

/-- The address is the first word. -/
def addressWord (line : List Char) : List Char :=
  (words line).headD []

def pairs (line : List Char) : List (List Char) :=
  (words line).tail

/-- What stands between the first bar and the last character. -/
def barred (line : List Char) : List Char :=
  (line.dropWhile (· ≠ '|')).tail.dropLast

def byte? (pair : List Char) : Option UInt8 :=
  (Numeral.read 16 256 pair).toOption.map UInt8.ofNat

/-- The bytes that the pairs of a dump stand for. -/
def bytes? (dump : String) : Option Bytes :=
  ((lines dump).mapM fun line => (pairs line).mapM byte?).map List.flatten

/-- Two hexadecimal digits denote a byte. -/
structure ShowsPair (pair : List Char) (byte : UInt8) : Prop where
  length_eq : pair.length = 2
  denotes : Numeral.Denotes 16 pair byte.toNat

/-- A printable byte shows as itself, any other as a point. -/
def ShowsCharacter (char : Char) (byte : UInt8) : Prop :=
  if 0x20 ≤ byte.toNat ∧ byte.toNat ≤ 0x7e then char.toNat = byte.toNat else char = '.'

/-- A line shows the bytes of a row behind the address of the first of them. -/
structure ShowsRow (place : Nat) (row : Bytes) (line : List Char) : Prop where
  first : addressWord line <+: line
  denotes : Numeral.Denotes 8 (addressWord line) place
  length_eq : (addressWord line).length = max 7 (Numeral.octal place).length
  pairs : List.Forall₂ ShowsPair (pairs line) row
  bar : line.idxOf '|' = (addressWord line).length + 51
  characters : List.Forall₂ ShowsCharacter (barred line) row
  last : line.getLast? = some '|'

/-! ### Words and lines -/

/-- A blank ends one word and starts another. All that is said of words follows from this. -/
theorem wordsOf_append_blank (before behind : List Char) :
    wordsOf (before ++ ' ' :: behind) = wordsOf before ++ wordsOf behind := by
  rw [wordsOf, List.splitOn_append_cons_self, List.filter_append]
  rfl

theorem wordsOf_of_not_mem {word : List Char} (nonempty : word ≠ []) (whole : ' ' ∉ word) :
    wordsOf word = [word] := by
  rw [wordsOf, List.splitOn_eq_singleton whole]
  simp [nonempty]

theorem wordsOf_append_replicate (text : List Char) (count : Nat) :
    wordsOf (text ++ List.replicate count ' ') = wordsOf text := by
  induction count with
  | zero => rw [List.replicate_zero, List.append_nil]
  | succ count inductionHypothesis =>
    rw [List.replicate_succ', ← List.append_assoc, wordsOf_append_blank, inductionHypothesis]
    exact List.append_nil _

theorem wordsOf_append_flatMap {Item : Type} (text : List Char) (items : List Item)
    (word : Item → List Char) (isWord : ∀ item ∈ items, word item ≠ [] ∧ ' ' ∉ word item) :
    wordsOf (text ++ items.flatMap fun item => ' ' :: word item) =
      wordsOf text ++ items.map word := by
  induction items generalizing text with
  | nil => rw [List.flatMap_nil, List.append_nil, List.map_nil, List.append_nil]
  | cons item rest inductionHypothesis =>
    obtain ⟨⟨nonempty, whole⟩, others⟩ := List.forall_mem_cons.mp isWord
    rw [List.flatMap_cons, ← List.append_assoc, inductionHypothesis _ others,
      wordsOf_append_blank, wordsOf_of_not_mem nonempty whole, List.append_assoc, List.map_cons,
      List.singleton_append]

theorem lines_flatMap {items : List (List Char)} (whole : ∀ item ∈ items, '\n' ∉ item) :
    lines (String.ofList (items.flatMap (· ++ ['\n']))) = items := by
  rw [lines, String.toList_ofList]
  induction items with
  | nil => rfl
  | cons item rest inductionHypothesis =>
    obtain ⟨first, others⟩ := List.forall_mem_cons.mp whole
    rw [List.flatMap_cons, List.append_assoc, List.singleton_append,
      List.splitOn_append_cons_self_of_not_mem first,
      List.dropLast_cons_of_ne_nil (List.splitOn_ne_nil '\n' _)]
    exact congrArg _ (inductionHypothesis others)

/-! ### Addresses, pairs and characters -/

theorem denotes_addressText (address : Nat) : Numeral.Denotes 8 (addressText address) address :=
  Numeral.denotes_padLeft (by decide) (by decide) 7 address

theorem showsPair_pairText (byte : UInt8) : ShowsPair (pairText byte) byte where
  length_eq := by
    have short : (Numeral.hexadecimal byte.toNat).length ≤ 2 :=
      (Nat.length_toDigits_le_iff (by decide) (by decide)).mpr byte.toNat_lt
    rw [pairText, Numeral.length_padLeft]
    omega
  denotes := Numeral.denotes_padLeft (by decide) (by decide) 2 byte.toNat

theorem showsCharacter_characterText (byte : UInt8) :
    ShowsCharacter (characterText byte) byte := by
  have printable_iff : (32 ≤ byte ∧ byte ≤ 126) ↔ 0x20 ≤ byte.toNat ∧ byte.toNat ≤ 0x7e :=
    and_congr UInt8.le_iff_toNat_le UInt8.le_iff_toNat_le
  rw [ShowsCharacter, characterText, if_congr printable_iff rfl rfl]
  split
  · next printable =>
    have valid : byte.toNat.isValidChar := .inl (by omega)
    rw [Char.ofNat, dif_pos valid]
    rfl
  · rfl

theorem ShowsCharacter.ne_lineFeed {char : Char} {byte : UInt8} (shows : ShowsCharacter char byte) :
    char ≠ '\n' := by
  rintro rfl
  rw [ShowsCharacter] at shows
  split at shows
  · next printable =>
    rw [← shows] at printable
    exact absurd printable.1 (by decide)
  · exact absurd shows (by decide)

theorem byte?_pairText (byte : UInt8) : byte? (pairText byte) = some byte := by
  have shows := showsPair_pairText byte
  have read : Numeral.read 16 256 (pairText byte) = .ok byte.toNat := by
    have nonempty := List.ne_nil_of_length_eq_add_one shows.length_eq
    rw [Numeral.read_eq_ok_iff (by decide) (by decide)]
    exact ⟨⟨_, nonempty, .inl rfl, shows.denotes⟩, byte.toNat_lt⟩
  rw [byte?, read]
  exact congrArg some (UInt8.ofNat_toNat)

/-! ### The lines of a dump -/

/-- What stands in front of the first bar of a line. -/
def front (address : Nat) (bytes : Bytes) : List Char :=
  addressText address ++ ' ' :: ((bytes.flatMap fun byte => ' ' :: pairText byte) ++
    List.replicate (3 * (rowWidth - bytes.length) + 2) ' ')

/-- A line without the line feed. -/
def lineText (address : Nat) (bytes : Bytes) : List Char :=
  front address bytes ++ '|' :: (bytes.map characterText ++ ['|'])

theorem row_eq (address : Nat) (bytes : Bytes) :
    row address bytes = lineText address bytes ++ ['\n'] := by
  have blanks : (List.replicate (rowWidth - bytes.length) [' ', ' ', ' ']).flatten =
      List.replicate (3 * (rowWidth - bytes.length)) ' ' := by
    have block : [' ', ' ', ' '] = List.replicate 3 ' ' := rfl
    rw [block, List.flatten_replicate_replicate, Nat.mul_comm]
  simp only [row, lineText, front, blanks, List.replicate_add, List.append_assoc, List.cons_append]
  rfl

theorem text_eq (address : Nat) (bytes : Bytes) : text address bytes =
    ((bytes.rows rowWidth).mapIdx fun index => lineText (address + rowWidth * index)).flatMap
      (· ++ ['\n']) := by
  rw [text, List.flatMap_def, List.mapIdx_eq_zipIdx_map, List.mapIdx_eq_zipIdx_map, List.map_map]
  simp only [Function.comp_def, ← row_eq]

/-- Neither a bar nor a line feed stands in front of the first bar. -/
theorem not_mem_front {char : Char} (outside : char ∉ " 0123456789abcdefABCDEF".toList)
    (address : Nat) (bytes : Bytes) : char ∉ front address bytes := by
  have notDigit : char ∉ "0123456789abcdefABCDEF".toList :=
    fun member => outside (List.mem_cons_of_mem ' ' member)
  have notBlank : char ≠ ' ' := fun blank => outside (blank ▸ List.mem_cons_self)
  intro member
  simp only [front, List.mem_append, List.mem_cons, List.mem_flatMap, List.mem_replicate] at member
  rcases member with inAddress | blank | ⟨byte, -, blank | inPair⟩ | ⟨-, blank⟩
  · exact (denotes_addressText address).not_mem notDigit inAddress
  · exact notBlank blank
  · exact notBlank blank
  · exact (showsPair_pairText byte).denotes.not_mem notDigit inPair
  · exact notBlank blank

theorem ne_bar_of_mem_front (address : Nat) (bytes : Bytes) :
    ∀ char ∈ front address bytes, decide (char ≠ '|') = true := by
  intro char member
  refine decide_eq_true ?_
  rintro rfl
  exact not_mem_front (by decide) address bytes member

theorem lineFeed_not_mem_lineText (address : Nat) (bytes : Bytes) :
    '\n' ∉ lineText address bytes := by
  intro member
  simp only [lineText, List.mem_append, List.mem_cons, List.mem_map, List.not_mem_nil,
    or_false] at member
  rcases member with inFront | bar | ⟨byte, -, character⟩ | bar
  · exact not_mem_front (by decide) address bytes inFront
  · exact absurd bar (by decide)
  · exact (showsCharacter_characterText byte).ne_lineFeed character
  · exact absurd bar (by decide)

theorem lines_render (address : Nat) (bytes : Bytes) : lines (render address bytes) =
    (bytes.rows rowWidth).mapIdx fun index => lineText (address + rowWidth * index) := by
  rw [render, text_eq, lines_flatMap]
  intro shown member
  obtain ⟨index, bounded, rfl⟩ := List.mem_mapIdx.mp member
  exact lineFeed_not_mem_lineText _ _

theorem words_lineText (address : Nat) (bytes : Bytes) :
    words (lineText address bytes) = addressText address :: bytes.map pairText := by
  have beforeBar : (lineText address bytes).takeWhile (· ≠ '|') = front address bytes := by
    rw [lineText, List.takeWhile_append_of_pos (ne_bar_of_mem_front address bytes),
      List.takeWhile_cons_of_neg (by decide), List.append_nil]
  have addressNonempty : addressText address ≠ [] := by
    refine List.ne_nil_of_length_pos ?_
    rw [addressText, Numeral.length_padLeft]
    omega
  have isWord : ∀ byte ∈ bytes, pairText byte ≠ [] ∧ ' ' ∉ pairText byte := by
    intro byte member
    have shows := showsPair_pairText byte
    exact ⟨List.ne_nil_of_length_eq_add_one shows.length_eq, shows.denotes.not_mem (by decide)⟩
  rw [words, beforeBar, front, wordsOf_append_blank, wordsOf_append_replicate,
    wordsOf_of_not_mem addressNonempty ((denotes_addressText address).not_mem (by decide))]
  exact congrArg _ (wordsOf_append_flatMap [] bytes pairText isWord)

theorem addressWord_lineText (address : Nat) (bytes : Bytes) :
    addressWord (lineText address bytes) = addressText address := by
  rw [addressWord, words_lineText, List.headD_cons]

theorem pairs_lineText (address : Nat) (bytes : Bytes) :
    pairs (lineText address bytes) = bytes.map pairText := by
  rw [pairs, words_lineText, List.tail_cons]

theorem barred_lineText (address : Nat) (bytes : Bytes) :
    barred (lineText address bytes) = bytes.map characterText := by
  rw [barred, lineText, List.dropWhile_append_of_pos (ne_bar_of_mem_front address bytes),
    List.dropWhile_cons_of_neg (by decide), List.tail_cons, List.dropLast_concat]

theorem length_front {bytes : Bytes} (short : bytes.length ≤ rowWidth) (address : Nat) :
    (front address bytes).length = (addressText address).length + 51 := by
  have pairsLength :
      (bytes.flatMap fun byte => ' ' :: pairText byte).length = 3 * bytes.length := by
    have wide : ∀ byte ∈ bytes, (' ' :: pairText byte).length = 3 := fun byte _ =>
      congrArg Nat.succ (showsPair_pairText byte).length_eq
    rw [List.length_flatMap, List.map_congr_left wide, List.map_const', List.sum_replicate_nat,
      Nat.mul_comm]
  have width : rowWidth = 16 := rfl
  simp only [front, List.length_append, List.length_cons, List.length_replicate, pairsLength]
  omega

theorem showsRow_lineText {bytes : Bytes} (short : bytes.length ≤ rowWidth) (address : Nat) :
    ShowsRow address bytes (lineText address bytes) := by
  constructor
  case first =>
    rw [addressWord_lineText, lineText, front, List.append_assoc]
    exact List.prefix_append ..
  case denotes =>
    rw [addressWord_lineText]
    exact denotes_addressText address
  case length_eq =>
    rw [addressWord_lineText]
    exact Numeral.length_padLeft ..
  case pairs =>
    rw [pairs_lineText, List.forall₂_map_left_iff, List.forall₂_same]
    exact fun byte _ => showsPair_pairText byte
  case bar =>
    have noBar : '|' ∉ front address bytes := not_mem_front (by decide) address bytes
    rw [addressWord_lineText, lineText, List.idxOf_append_of_notMem noBar, List.idxOf_cons_self,
      length_front short, Nat.add_zero]
  case characters =>
    rw [barred_lineText, List.forall₂_map_left_iff, List.forall₂_same]
    exact fun byte _ => showsCharacter_characterText byte
  case last =>
    rw [lineText, ← List.cons_append, ← List.append_assoc, List.getLast?_concat]

/-! ### A dump as a whole -/

theorem lines_getElem? {address index : Nat} {bytes : Bytes} {shown : List Char}
    (found : (lines (render address bytes))[index]? = some shown) :
    16 * index < bytes.length ∧
      shown = lineText (address + 16 * index) ((bytes.drop (16 * index)).take 16) := by
  rw [lines_render, List.getElem?_mapIdx, Option.map_eq_some_iff] at found
  obtain ⟨row, row_found, rfl⟩ := found
  obtain ⟨inside, rfl⟩ := Bytes.rows_getElem? row_found
  exact ⟨inside, rfl⟩

theorem bytes?_render (address : Nat) (bytes : Bytes) :
    bytes? (render address bytes) = some bytes := by
  have byteOf : byte? ∘ pairText = fun byte => pure byte := funext byte?_pairText
  have rowOf (place : Nat) (row : Bytes) : (pairs (lineText place row)).mapM byte? = some row := by
    rw [pairs_lineText, List.mapM_map, byteOf, List.mapM_pure, List.map_id']
    rfl
  have rows : (lines (render address bytes)).mapM (fun shown => (pairs shown).mapM byte?) =
      some (bytes.rows rowWidth) := by
    rw [lines_render, List.mapIdx_eq_zipIdx_map, List.mapM_map]
    simp only [Function.comp_def, rowOf]
    exact (List.mapM_pure).trans (congrArg some (List.zipIdx_map_fst 0 _))
  rw [bytes?, rows, Option.map_some, Bytes.flatten_rows rowWidth (by decide)]

/-! ### Dumps of kernel memory -/

/-- What is found in kernel memory lies below the addresses that need seven octal digits. -/
theorem peek_gives {reader : KernelReader} (serves : KernelReader.Serves reader)
    (offset : Nat) {length : Nat} (short : length ≤ KernelReader.bufferLimit) :
    ∃ bytes, Reading.Gives (KernelReader.peek offset length) reader bytes reader ∧
      (bytes ≠ [] → offset + bytes.length ≤ 8 ^ 6) := by
  by_cases outside : ∀ window, ¬ Device.Memory.Covers reader.kernel.tables offset length window
  · have gives := KernelReader.read_gives_of_not_covers serves outside
    exact ⟨[], KernelReader.peek_gives_of_read short gives, fun nonempty => absurd rfl nonempty⟩
  · simp only [not_forall, Classical.not_not] at outside
    obtain ⟨window, covers⟩ := outside
    have gives := KernelReader.read_gives_of_covers serves covers
    refine ⟨_, KernelReader.peek_gives_of_read short gives, fun _ => ?_⟩
    rw [List.length_take]
    exact Nat.le_trans (Nat.add_le_add_left (Nat.min_le_left ..) _)
      (Device.Memory.add_count_le covers _)

/-- An address with a zero in front is an address that can be typed. -/
theorem parseAddress_addressText {address : Nat} (small : address < 8 ^ 6) :
    CommandLine.parseAddress (String.ofList (addressText address)) = .ok address := by
  have short : (Numeral.octal address).length ≤ 6 :=
    (Nat.length_toDigits_le_iff (by decide) (by decide)).mpr small
  -- The number has six digits at most, so the first of seven is a zero.
  have starts : addressText address = '0' :: Numeral.padLeft 6 '0' (Numeral.octal address) := by
    rw [addressText, Numeral.padLeft, Numeral.padLeft, Nat.succ_sub short, List.replicate_succ,
      List.cons_append]
  refine CommandLine.parseAddress_of_leadingZero ?_
    (Numeral.denotes_padLeft (by decide) (by decide) 6 address) ?_
    (Nat.lt_trans small (by decide))
  · exact List.append_ne_nil_of_right_ne_nil _ Nat.toDigits_ne_nil
  · rw [String.toList_ofList]
    exact starts

/-- Where all bytes lie as low as in kernel memory, the address of each line can be typed. -/
theorem parseAddress_addressWord {offset index : Nat} {bytes : Bytes} {line : List Char}
    (below : bytes ≠ [] → offset + bytes.length ≤ 8 ^ 6)
    (found : (lines (render offset bytes))[index]? = some line) :
    offset + 16 * index < 2 ^ 64 ∧
      CommandLine.parseAddress (String.ofList (addressWord line)) = .ok (offset + 16 * index) := by
  obtain ⟨inside, rfl⟩ := lines_getElem? found
  -- A line has a byte, and no byte lies higher.
  have ends := below (List.ne_nil_of_length_pos (Nat.zero_lt_of_lt inside))
  have small : offset + 16 * index < 8 ^ 6 := by omega
  rw [addressWord_lineText]
  exact ⟨Nat.lt_trans small (by decide), parseAddress_addressText small⟩

/-- A dump can be read back. It has a line for every sixteen bytes and one for the rest, and each
line shows its own bytes and the address of the first of them, so that the pairs of all lines are
the bytes of the dump. And where the bytes have been found in kernel memory, each address of the
dump, typed again as it is printed, is the one at which the first byte of its line was found. There
are bytes to dump, none or more, for every length that a buffer can have; at any other the reading
breaks off. -/
theorem render_reads_back :
    (∀ (address : Nat) (bytes : Bytes),
      (render address bytes).toList = (lines (render address bytes)).flatMap (· ++ ['\n']) ∧
      (lines (render address bytes)).length = (bytes.length + 15) / 16 ∧
      (∀ index line, (lines (render address bytes))[index]? = some line →
        16 * index < bytes.length ∧
        ShowsRow (address + 16 * index) ((bytes.drop (16 * index)).take 16) line) ∧
      bytes? (render address bytes) = some bytes) ∧
    ∀ (tables : Tables) (offset length : Nat),
      let (result, _) :=
        (do KernelReader.openMemory; KernelReader.peek offset length : Reading Bytes).run
          { switch := .standard, kernel := { tables } }
      (length ≤ 0x7fffffffffffffff → ∃ bytes, result = .ok bytes) ∧
      (0x7fffffffffffffff < length → result = .error .capacityOverflow) ∧
      ∀ bytes, result = .ok bytes →
        ∀ index line, (lines (render offset bytes))[index]? = some line →
          offset + 16 * index < 2 ^ 64 ∧
          CommandLine.parseAddress (String.ofList (addressWord line)) =
            .ok (offset + 16 * index) := by
  constructor
  · intro address bytes
    refine ⟨?_, ?_, fun index line found => ?_, bytes?_render address bytes⟩
    · rw [lines_render, ← text_eq, render, String.toList_ofList]
    · rw [lines_render, List.length_mapIdx]
      exact Bytes.length_rows (by decide) bytes
    · obtain ⟨inside, rfl⟩ := lines_getElem? found
      exact ⟨inside, showsRow_lineText (List.length_take_le ..) _⟩
  · intro tables offset length
    have serves : KernelReader.Serves { switch := .standard, kernel := { tables } } := ⟨rfl, rfl⟩
    have opens := KernelReader.openMemory_gives serves
    rcases Nat.lt_or_ge KernelReader.bufferLimit length with long | short
    · rw [opens.bind_fails (KernelReader.peek_fails long offset)]
      exact ⟨fun short => absurd short (Nat.not_le.mpr long), fun _ => rfl, nofun⟩
    · obtain ⟨bytes, gives, below⟩ := peek_gives serves offset short
      rw [opens.bind gives]
      refine ⟨fun _ => ⟨bytes, rfl⟩, fun long => absurd long (Nat.not_lt.mpr short), ?_⟩
      rintro _ ⟨⟩ index line found
      exact parseAddress_addressWord below found

/-- A full row and a short one with a bar in it, and the number of the swap device. -/
theorem render_reads_back_in_two_rows :
    (lines (render 0 (List.replicate 16 0 ++ [0x58, 0x7c])))[1]? =
      some ("0000020  58 7c".toList ++ List.replicate 44 ' ' ++ "|X||".toList) ∧
    ShowsRow 16 [0x58, 0x7c]
      ("0000020  58 7c".toList ++ List.replicate 44 ' ' ++ "|X||".toList) ∧
    ∃ bytes after,
      (do KernelReader.openMemory; KernelReader.peek 780 2 : Reading Bytes).run
        { switch := .standard, kernel := { tables := .empty } } = (.ok bytes, after) ∧
      (lines (render 780 bytes))[0]? =
        some ("0001414  01 03".toList ++ List.replicate 44 ' ' ++ "|..|".toList) ∧
      CommandLine.parseAddress "0001414" = .ok 780 := by
  obtain ⟨reads, typed⟩ := render_reads_back
  obtain ⟨-, -, rows, -⟩ := reads 0 (List.replicate 16 0 ++ [0x58, 0x7c])
  obtain ⟨given, -, addresses⟩ := typed .empty 780 2
  obtain ⟨bytes, result⟩ := given (by decide)
  have second : (lines (render 0 (List.replicate 16 0 ++ [0x58, 0x7c])))[1]? =
      some ("0000020  58 7c".toList ++ List.replicate 44 ' ' ++ "|X||".toList) := by
    decide +kernel
  have found : bytes = [1, 3] := (Except.ok.inj result).symm
  have only : (lines (render 780 bytes))[0]? =
      some ("0001414  01 03".toList ++ List.replicate 44 ' ' ++ "|..|".toList) := by
    rw [found]
    decide +kernel
  refine ⟨second, (rows 1 _ second).2, bytes, _, Prod.ext result rfl, only, ?_⟩
  have address : String.ofList (addressWord ("0001414  01 03".toList ++ List.replicate 44 ' ' ++
      "|..|".toList)) = "0001414" := by
    decide +kernel
  rw [← address]
  exact (addresses bytes result 0 _ only).2

end MemoryDump

end SixthEdition
