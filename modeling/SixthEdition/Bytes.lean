/-
This file holds the byte strings that kernel records travel as: 16-bit words
with the low byte first, fields at fixed positions, zero filling up to a
length, and the division of a byte string into rows of one width.
-/

namespace SixthEdition

abbrev Bytes := List UInt8

/-! ### Words, low byte first -/

namespace Word

def toBytes (word : UInt16) : Bytes :=
  [word.toUInt8, (word >>> 8).toUInt8]

def ofBytes (low high : UInt8) : UInt16 :=
  low.toUInt16 ||| (high.toUInt16 <<< 8)

@[simp] theorem length_toBytes (word : UInt16) : (toBytes word).length = 2 := rfl

theorem toNat_ofBytes (low high : UInt8) :
    (ofBytes low high).toNat = low.toNat + 256 * high.toNat := by
  have lowLt := low.toNat_lt
  have highLt := high.toNat_lt
  have shifted : (high.toUInt16 <<< 8).toNat = high.toNat <<< 8 := by
    rw [UInt16.toNat_shiftLeft, UInt8.toNat_toUInt16]
    show high.toNat <<< 8 % 2 ^ 16 = high.toNat <<< 8
    rw [Nat.shiftLeft_eq]
    omega
  rw [ofBytes, UInt16.toNat_or, shifted, UInt8.toNat_toUInt16, Nat.or_comm,
    ← Nat.shiftLeft_add_eq_or_of_lt lowLt, Nat.shiftLeft_eq]
  omega

theorem toNat_high (word : UInt16) : (word >>> 8).toUInt8.toNat = word.toNat / 256 := by
  have wordLt := word.toNat_lt
  rw [UInt16.toNat_toUInt8, UInt16.toNat_shiftRight]
  show word.toNat >>> 8 % 256 = word.toNat / 256
  rw [Nat.shiftRight_eq_div_pow]
  omega

/-- A word is the word of its two bytes. -/
theorem ofBytes_toBytes (word : UInt16) :
    ofBytes word.toUInt8 (word >>> 8).toUInt8 = word := by
  apply UInt16.toNat_inj.mp
  rw [toNat_ofBytes, toNat_high, UInt16.toNat_toUInt8]
  omega

/-- The bytes of a word that is put together from two bytes are these two. -/
theorem toBytes_ofBytes (low high : UInt8) : toBytes (ofBytes low high) = [low, high] := by
  have lowLt := low.toNat_lt
  have highLt := high.toNat_lt
  have lowEq : (ofBytes low high).toUInt8 = low := by
    apply UInt8.toNat_inj.mp
    rw [UInt16.toNat_toUInt8, toNat_ofBytes]
    omega
  have highEq : (ofBytes low high >>> 8).toUInt8 = high := by
    apply UInt8.toNat_inj.mp
    rw [toNat_high, toNat_ofBytes]
    omega
  rw [toBytes, lowEq, highEq]

end Word

namespace Bytes

/-! ### Fields at fixed positions -/

/-- The byte at a position, zero past the end. -/
def byteAt (bytes : Bytes) (position : Nat) : UInt8 :=
  bytes.getD position 0

/-- The word whose low byte is at a position. -/
def wordAt (bytes : Bytes) (position : Nat) : UInt16 :=
  Word.ofBytes (bytes.byteAt position) (bytes.byteAt (position + 1))

/-- Masking a byte to its low seven bits takes the remainder by 128. -/
theorem toNat_lowSeven (byte : UInt8) : (byte &&& 0o177).toNat = byte.toNat % 128 := by
  rw [UInt8.toNat_and]
  exact Nat.and_two_pow_sub_one_eq_mod byte.toNat 7

/-! ### Lengths -/

/-- The first `length` bytes, with zeros after the end of a shorter string. -/
def fit (length : Nat) (bytes : Bytes) : Bytes :=
  bytes.take length ++ List.replicate (length - bytes.length) 0

/-- The last `length` bytes, or the whole of a shorter string. -/
def last (length : Nat) (bytes : Bytes) : Bytes :=
  bytes.drop (bytes.length - length)

/-- The string with `part` laid over it from its first byte on. -/
def overlay (part bytes : Bytes) : Bytes :=
  part ++ bytes.drop part.length

/-- The string with `part` in place of the bytes at `position`, if they all lie inside. -/
def overwrite? (position : Nat) (part bytes : Bytes) : Option Bytes :=
  if position + part.length ≤ bytes.length then
    some (bytes.take position ++ part.overlay (bytes.drop position))
  else none

@[simp] theorem length_fit (length : Nat) (bytes : Bytes) : (bytes.fit length).length = length := by
  simp only [fit, List.length_append, List.length_take, List.length_replicate]
  omega

@[simp] theorem length_last (length : Nat) (bytes : Bytes) :
    (bytes.last length).length = min length bytes.length := by
  simp only [last, List.length_drop]
  omega

/-- Rows of one width in order; the last row may be shorter. Rows of no width hold nothing. -/
def rows : Nat → Bytes → List Bytes
  | 0, _ => []
  | _, [] => []
  | width + 1, first :: rest =>
    (first :: rest.take width) :: rows (width + 1) (rest.drop width)
termination_by _ bytes => bytes.length
decreasing_by
  simp only [List.length_drop, List.length_cons]
  omega

/-- Put together again, the rows are the whole string. -/
theorem flatten_rows (width : Nat) (positive : 0 < width) (bytes : Bytes) :
    (bytes.rows width).flatten = bytes := by
  fun_induction rows width bytes with
  | case1 => exact absurd positive (Nat.lt_irrefl 0)
  | case2 => rfl
  | case3 width first rest inductionHypothesis =>
    rw [List.flatten_cons, inductionHypothesis positive, List.cons_append,
      List.take_append_drop]

/-- The UTF-8 form of a text. -/
def ofText (text : String) : Bytes :=
  text.toUTF8.data.toList

theorem length_ofText (text : String) : (ofText text).length = text.utf8ByteSize := rfl

end Bytes

end SixthEdition
