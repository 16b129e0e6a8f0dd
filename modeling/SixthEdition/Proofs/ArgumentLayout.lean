/-
This file proves how the arguments of a program lie at the top of its image. The
strings fill whole words and so does the vector below them, so that the word of
ones between the two stands at a whole word of the image exactly when the image
itself has whole words.
-/

import SixthEdition.Process.Arguments

namespace SixthEdition.Arguments

/-! ### Lengths -/

theorem length_wordPadded (bytes : Bytes) :
    (wordPadded bytes).length = 2 * ((bytes.length + 1) / 2) := by
  rw [wordPadded]
  split
  · omega
  · rw [List.length_append, List.length_singleton]
    omega

/-- The strings fill whole words. -/
theorem length_strings_even (arguments : List Bytes) : (strings arguments).length % 2 = 0 := by
  rw [strings, length_wordPadded, Nat.mul_mod_right]

theorem length_flatten_le_strings (arguments : List Bytes) :
    (arguments.flatMap (· ++ [0])).length ≤ (strings arguments).length := by
  rw [strings, length_wordPadded]
  omega

/-- The strings hold the bytes of the arguments, and zeros. -/
theorem forall_mem_strings {arguments : List Bytes} {Holds : UInt8 → Prop} (zero : Holds 0)
    (each : ∀ argument ∈ arguments, ∀ byte ∈ argument, Holds byte) :
    ∀ byte ∈ strings arguments, Holds byte := by
  have ended : ∀ byte ∈ arguments.flatMap (· ++ [0]), Holds byte :=
    List.forall_mem_flatMap.mpr fun argument member =>
      List.forall_mem_append.mpr ⟨each argument member, List.forall_mem_singleton.mpr zero⟩
  rw [strings, wordPadded]
  split
  · exact ended
  · exact List.forall_mem_append.mpr ⟨ended, List.forall_mem_singleton.mpr zero⟩

@[simp] theorem length_wordBytes (words : List UInt16) :
    (words.flatMap Word.toBytes).length = 2 * words.length := by
  induction words with
  | nil => rfl
  | cons word rest inductionHypothesis =>
    rw [List.flatMap_cons, List.length_append, inductionHypothesis, Word.length_toBytes,
      List.length_cons]
    omega

@[simp] theorem length_places (start : Nat) (arguments : List Bytes) :
    (places start arguments).length = arguments.length := by
  induction arguments generalizing start with
  | nil => rfl
  | cons argument rest inductionHypothesis =>
    rw [places, List.length_cons, inductionHypothesis, List.length_cons]

/-- The place of each string lies inside the strings. -/
theorem lt_of_mem_places {start place : Nat} {arguments : List Bytes}
    (member : place ∈ places start arguments) :
    place < start + (arguments.flatMap (· ++ [0])).length := by
  induction arguments generalizing start with
  | nil => cases member
  | cons argument rest inductionHypothesis =>
    rw [List.flatMap_cons, List.length_append, List.length_append, List.length_singleton]
    rcases List.mem_cons.mp member with rfl | later
    · omega
    · have inside := inductionHypothesis later
      omega

/-! ### The image -/

/-- The words below the word of ones: the number of the strings, and their places. -/
def pointers (start : Nat) (arguments : List Bytes) : List UInt16 :=
  UInt16.ofNat arguments.length :: (places start arguments).map UInt16.ofNat

theorem vector_eq (start : Nat) (arguments : List Bytes) :
    vector start arguments = (pointers start arguments).flatMap Word.toBytes ++ [0xFF, 0xFF] := by
  rw [vector, List.flatMap_append]
  rfl

/-- All that a laid out image is made of, from its start to its top. -/
theorem eq_of_layOut {arguments : List Bytes} {image laid : Bytes}
    (laidOut : layOut arguments image = .ok laid) :
    vectorSize arguments.length + (strings arguments).length ≤ image.length ∧
    laid =
      image.take (image.length - (vectorSize arguments.length + (strings arguments).length)) ++
        (pointers (image.length - (strings arguments).length) arguments).flatMap Word.toBytes ++
        [0xFF, 0xFF] ++ strings arguments := by
  simp only [layOut] at laidOut
  split at laidOut
  case isTrue => cases laidOut
  case isFalse fits =>
    refine ⟨Nat.le_of_not_lt fits, ?_⟩
    rw [← Except.ok.inj laidOut, vector_eq, ← List.append_assoc]

theorem length_of_layOut {arguments : List Bytes} {image laid : Bytes}
    (laidOut : layOut arguments image = .ok laid) : laid.length = image.length := by
  obtain ⟨fits, rfl⟩ := eq_of_layOut laidOut
  rw [vectorSize] at *
  simp only [List.length_append, List.length_take, length_wordBytes, pointers,
    List.length_cons, List.length_map, length_places, List.length_nil]
  omega

theorem length_marked (below strings : Bytes) :
    (below ++ [0xFF, 0xFF] ++ strings).length = below.length + 2 + strings.length := by
  rw [List.length_append, List.length_append]
  rfl

/-- Whatever else is in a laid out image lies below the word of ones. -/
theorem exists_below_of_layOut {arguments : List Bytes} {image laid : Bytes}
    (laidOut : layOut arguments image = .ok laid) :
    ∃ below, laid = below ++ [0xFF, 0xFF] ++ strings arguments ∧
      below.length + 2 + (strings arguments).length = image.length := by
  obtain ⟨-, shape⟩ := eq_of_layOut laidOut
  refine ⟨_, shape, ?_⟩
  rw [← length_marked, ← shape, length_of_layOut laidOut]

/-- In an image of less than 65280 bytes no word of the vector has a high byte of ones, but the
last one. -/
theorem high_ne_ones_of_mem_pointers {arguments : List Bytes} {size : Nat} {word : UInt16}
    (fits : vectorSize arguments.length + (strings arguments).length ≤ size)
    (small : size < 0xFF00)
    (member : word ∈ pointers (size - (strings arguments).length) arguments) :
    (word >>> 8).toUInt8 ≠ 0xFF := by
  rw [vectorSize] at fits
  have below : ∃ number, word = UInt16.ofNat number ∧ number < 0xFF00 := by
    rcases List.mem_cons.mp member with rfl | isPlace
    · exact ⟨_, rfl, by omega⟩
    · obtain ⟨place, placeMember, rfl⟩ := List.mem_map.mp isPlace
      have inside := lt_of_mem_places placeMember
      have padded := length_flatten_le_strings arguments
      exact ⟨place, rfl, by omega⟩
  obtain ⟨number, rfl, bounded⟩ := below
  intro ones
  have high : number / 256 = 255 := by
    rw [← UInt16.toNat_ofNat_of_lt' (Nat.lt_trans bounded (by decide)), ← Word.toNat_high, ones]
    rfl
  omega

end SixthEdition.Arguments
