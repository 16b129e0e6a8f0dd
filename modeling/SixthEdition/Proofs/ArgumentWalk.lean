/-
This file proves that a program finds its arguments in its image. It reads their
number from the first word of the vector, the place of each from the next words,
and each argument from its place up to the next zero byte.

Places are words, so that this needs an image in which each place fits into a
word. That is the only thing the size of the image matters for. An argument must
not hold a zero byte itself, for it would end there.
-/

import SixthEdition.Process.Basic
import SixthEdition.Proofs.ArgumentLayout

namespace SixthEdition

namespace Arguments

/-! ### What is laid out -/

/-- A number as a word with the low byte first. Of a number that does not fit, only the two low
bytes are kept. -/
def littleEndian (number : Nat) : Bytes :=
  [UInt8.ofNat number, UInt8.ofNat (number / 256)]

/-- The texts in order, each ended by a zero byte. -/
def joined (texts : List Bytes) : Bytes :=
  texts.flatMap (· ++ [0])

/-- The texts in order, with a last zero byte where their length would be odd without it. -/
def packed (texts : List Bytes) : Bytes :=
  joined texts ++ List.replicate ((joined texts).length % 2) 0

/-- Where each of the texts starts when the first one starts at `first`. -/
def textPlaces (first : Nat) (texts : List Bytes) : List Nat :=
  (List.range texts.length).map fun slot => first + (joined (texts.take slot)).length

theorem joined_cons (text : Bytes) (rest : List Bytes) :
    joined (text :: rest) = text ++ [0] ++ joined rest :=
  List.flatMap_cons

theorem toBytes_ofNat (number : Nat) :
    Word.toBytes (UInt16.ofNat number) = littleEndian number := by
  have low : (UInt16.ofNat number).toUInt8 = UInt8.ofNat number := by
    apply UInt8.toNat_inj.mp
    simp
  have high : (UInt16.ofNat number >>> 8).toUInt8 = UInt8.ofNat (number / 256) := by
    apply UInt8.toNat_inj.mp
    rw [Word.toNat_high, UInt16.toNat_ofNat', UInt8.toNat_ofNat']
    omega
  rw [Word.toBytes, low, high, littleEndian]

theorem strings_eq_packed (texts : List Bytes) : strings texts = packed texts := by
  rw [strings, wordPadded, packed, joined]
  rcases Nat.mod_two_eq_zero_or_one (texts.flatMap (· ++ [0])).length with even | odd
  · rw [if_pos even, even, List.replicate_zero, List.append_nil]
  · rw [if_neg (by rw [odd]; exact Nat.one_ne_zero), odd, List.replicate_one]

theorem places_eq_textPlaces (first : Nat) (texts : List Bytes) :
    places first texts = textPlaces first texts := by
  induction texts generalizing first with
  | nil => rfl
  | cons text rest inductionHypothesis =>
    rw [places, inductionHypothesis, textPlaces, textPlaces, List.length_cons,
      List.range_succ_eq_map, List.map_cons, List.map_map]
    refine List.cons_eq_cons.mpr ⟨rfl, congrArg (List.map · _) (funext fun slot => ?_)⟩
    simp [joined, Nat.add_assoc]

theorem vector_eq_littleEndian (first : Nat) (texts : List Bytes) :
    vector first texts =
      (texts.length :: textPlaces first texts ++ [0xFFFF]).flatMap littleEndian := by
  have words : (UInt16.ofNat texts.length :: (places first texts).map UInt16.ofNat ++ [0xFFFF]) =
      (texts.length :: textPlaces first texts ++ [0xFFFF]).map UInt16.ofNat := by
    rw [places_eq_textPlaces, List.map_append, List.map_cons]
    rfl
  rw [vector, words, List.flatMap_map]
  exact congrArg (List.flatMap · _) (funext toBytes_ofNat)

/-! ### Reading it back -/

/-- The text that starts at a place of an image and ends before the next zero byte. None if no zero
byte follows. -/
def textAt? (image : Bytes) (place : Nat) : Option Bytes :=
  if 0 ∈ image.drop place then some ((image.drop place).takeWhile (· ≠ 0)) else none

/-- The arguments that a vector at some place of an image leads to: as many as its first word says,
each at the place that the next word gives. -/
def followed? (image : Bytes) (vector : Nat) : Option (List Bytes) :=
  (List.range (image.wordAt vector).toNat).mapM fun slot =>
    textAt? image (image.wordAt (vector + 2 * (slot + 1))).toNat

theorem textAt?_append {text : Bytes} (noZero : 0 ∉ text) (below behind : Bytes) :
    textAt? (below ++ (text ++ 0 :: behind)) below.length = some text := by
  have kept : ∀ byte ∈ text, decide (byte ≠ 0) = true := by
    intro byte member
    exact decide_eq_true fun zero => noZero (zero ▸ member)
  rw [textAt?, List.drop_left, if_pos (by simp), List.takeWhile_append_of_pos kept]
  simp

theorem wordAt_append (below bytes : Bytes) (position : Nat) :
    Bytes.wordAt (below ++ bytes) (below.length + position) = bytes.wordAt position := by
  have byte (position : Nat) :
      Bytes.byteAt (below ++ bytes) (below.length + position) = bytes.byteAt position := by
    simp [Bytes.byteAt, List.getElem?_append_right]
  rw [Bytes.wordAt, Nat.add_assoc, byte, byte, Bytes.wordAt]

/-- Words are read in order from the string that starts with them. -/
theorem map_wordAt (words : List UInt16) (behind : Bytes) :
    ((List.range words.length).map fun slot =>
      Bytes.wordAt (words.flatMap Word.toBytes ++ behind) (2 * slot)) = words := by
  induction words with
  | nil => rfl
  | cons word rest inductionHypothesis =>
    rw [List.length_cons, List.range_succ_eq_map, List.map_cons, List.map_map, List.flatMap_cons,
      List.append_assoc]
    refine List.cons_eq_cons.mpr ⟨Word.ofBytes_toBytes word, ?_⟩
    refine Eq.trans (congrArg (List.map · _) (funext fun slot => ?_)) inductionHypothesis
    rw [Function.comp, Nat.succ_eq_add_one, Nat.mul_succ, Nat.add_comm]
    exact wordAt_append (Word.toBytes word) _ (2 * slot)

/-- Each text is found at its place, if all places fit into a word. -/
theorem mapM_textAt?_places {texts : List Bytes} (noZero : ∀ text ∈ texts, 0 ∉ text)
    (below behind : Bytes) (small : below.length + (joined texts).length ≤ 65536) :
    ((places below.length texts).map UInt16.ofNat).mapM
        (fun place => textAt? (below ++ (joined texts ++ behind)) place.toNat) = some texts := by
  induction texts generalizing below with
  | nil => rfl
  | cons text rest inductionHypothesis =>
    obtain ⟨textNoZero, restNoZero⟩ := List.forall_mem_cons.mp noZero
    have size : (joined (text :: rest)).length = text.length + 1 + (joined rest).length := by
      rw [joined_cons, List.length_append, List.length_append, List.length_singleton]
    have next : (below ++ (text ++ [0])).length = below.length + text.length + 1 := by
      rw [List.length_append, List.length_append, List.length_singleton, Nat.add_assoc]
    have first : textAt? (below ++ (text ++ [0] ++ joined rest ++ behind))
        (UInt16.ofNat below.length).toNat = some text := by
      rw [UInt16.toNat_ofNat_of_lt' (show below.length < 65536 by omega), List.append_assoc,
        List.append_assoc]
      exact textAt?_append textNoZero below _
    have later := inductionHypothesis restNoZero (below ++ (text ++ [0])) (by omega)
    rw [List.append_assoc, ← List.append_assoc (text ++ [0]), next] at later
    rw [joined_cons, places, List.map_cons, List.mapM_cons, first, later]
    rfl

/-- A vector in an image leads to the texts that stand in it, if their number and their places fit
into a word. -/
theorem followed?_of_shape {image below above before behind : Bytes} {texts : List Bytes}
    (vectorAt : image =
      below ++ ((pointers before.length texts).flatMap Word.toBytes ++ above))
    (textsAt : image = before ++ (joined texts ++ behind))
    (noZero : ∀ text ∈ texts, 0 ∉ text) (few : texts.length < 65536)
    (small : before.length + (joined texts).length ≤ 65536) :
    followed? image below.length = some texts := by
  have read (position : Nat) : image.wordAt (below.length + position) =
      Bytes.wordAt ((pointers before.length texts).flatMap Word.toBytes ++ above) position := by
    rw [vectorAt, wordAt_append]
  have words := map_wordAt (pointers before.length texts) above
  simp only [← read] at words
  rw [pointers, List.length_cons, List.length_map, length_places, List.range_succ_eq_map,
    List.map_cons, List.map_map] at words
  obtain ⟨count, listed⟩ := List.cons_eq_cons.mp words
  have counted : (image.wordAt below.length).toNat = texts.length := by
    rw [show image.wordAt below.length = UInt16.ofNat texts.length from count,
      UInt16.toNat_ofNat_of_lt' few]
  have found := mapM_textAt?_places noZero before behind small
  rw [← textsAt, ← listed, List.mapM_map] at found
  rw [followed?, counted]
  exact found

/-! ### The image -/

theorem layOut_of_lt {texts : List Bytes} {image : Bytes}
    (short : image.length < vectorSize texts.length + (strings texts).length) :
    layOut texts image =
      .error ⟨vectorSize texts.length + (strings texts).length, image.length⟩ :=
  if_pos short

theorem exists_layOut {texts : List Bytes} {image : Bytes}
    (fits : vectorSize texts.length + (strings texts).length ≤ image.length) :
    ∃ laid, layOut texts image = .ok laid :=
  ⟨_, if_neg (Nat.not_lt.mpr fits)⟩

@[simp] theorem length_vector (first : Nat) (texts : List Bytes) :
    (vector first texts).length = vectorSize texts.length := by
  rw [vector, length_wordBytes, vectorSize]
  simp

section LaidOut

variable {texts : List Bytes} {image laid : Bytes} (laidOut : layOut texts image = .ok laid)
include laidOut

/-- The three parts of a laid out image, and where they meet. -/
theorem exists_parts_of_layOut :
    ∃ below,
      laid = below ++ (vector (image.length - (strings texts).length) texts ++ strings texts) ∧
      below = image.take below.length ∧
      below.length = image.length - (vectorSize texts.length + (strings texts).length) ∧
      below.length + vectorSize texts.length = image.length - (strings texts).length := by
  obtain ⟨fits, shape⟩ := eq_of_layOut laidOut
  rw [List.append_assoc _ _ [0xFF, 0xFF], ← vector_eq, List.append_assoc] at shape
  have size : (image.take (image.length -
      (vectorSize texts.length + (strings texts).length))).length =
      image.length - (vectorSize texts.length + (strings texts).length) := by
    rw [List.length_take]
    omega
  refine ⟨_, shape, ?_, size, ?_⟩
  · rw [size]
  · omega

theorem followed?_of_layOut (noZero : ∀ text ∈ texts, 0 ∉ text) (small : image.length ≤ 65536) :
    followed? laid (image.length - (vectorSize texts.length + (strings texts).length)) =
      some texts := by
  obtain ⟨fits, -⟩ := eq_of_layOut laidOut
  obtain ⟨below, shape, -, belowLength, meet⟩ := exists_parts_of_layOut laidOut
  have first : (below ++ vector (image.length - (strings texts).length) texts).length =
      image.length - (strings texts).length := by
    rw [List.length_append, length_vector, meet]
  have few : texts.length < 65536 := by
    rw [vectorSize] at fits
    omega
  have vectorAt : laid = below ++
      ((pointers (below ++ vector (image.length - (strings texts).length) texts).length
        texts).flatMap Word.toBytes ++ ([0xFF, 0xFF] ++ strings texts)) := by
    rw [first, shape, vector_eq, List.append_assoc]
  have textsAt : laid = below ++ vector (image.length - (strings texts).length) texts ++
      (joined texts ++ List.replicate ((joined texts).length % 2) 0) := by
    rw [shape, ← packed, ← strings_eq_packed, List.append_assoc]
  rw [← belowLength]
  refine followed?_of_shape vectorAt textsAt noZero few ?_
  have inside : (joined texts).length ≤ (strings texts).length := length_flatten_le_strings texts
  omega

end LaidOut

end Arguments

namespace Process

open Arguments

/-- Arguments are laid out where a program can find them again. They fail to be exactly if the image
is smaller than their vector and strings, which is what the fault reports. Otherwise the image keeps
its length and everything below the vector. It ends with the strings, and the vector below them is
their number, their places and a word of ones, each kept to sixteen bits. In an image of up to 65536
bytes, arguments that hold no zero byte are all found from the vector, in order. -/
theorem withArguments_leads_back (process : Process) (arguments : List String) :
    let texts := arguments.map Bytes.ofText
    let size := process.image.length
    let needed := 2 * (arguments.length + 2) + (packed texts).length
    (size < needed → process.withArguments arguments = .error ⟨needed, size⟩) ∧
    (needed ≤ size → ∃ image, process.withArguments arguments = .ok { process with image } ∧
      image.length = size ∧
      image.take (size - needed) = process.image.take (size - needed) ∧
      (image.drop (size - needed)).take (2 * (arguments.length + 2)) =
        (arguments.length :: textPlaces (size - (packed texts).length) texts ++
          [0xFFFF]).flatMap littleEndian ∧
      image.drop (size - (packed texts).length) = packed texts ∧
      (size ≤ 65536 → (∀ text ∈ texts, 0 ∉ text) →
        followed? image (size - needed) = some texts)) := by
  intro texts size needed
  have total : vectorSize texts.length + (strings texts).length = needed := by
    rw [strings_eq_packed, List.length_map, vectorSize]
  refine ⟨fun short => ?short, fun fits => ?fits⟩
  case short =>
    rw [withArguments, layOut_of_lt (total.symm ▸ short), total]
  case fits =>
    obtain ⟨image, laidOut⟩ := exists_layOut (total.symm ▸ fits)
    obtain ⟨below, shape, kept, belowLength, meet⟩ := exists_parts_of_layOut laidOut
    rw [total] at belowLength
    refine ⟨image, ?laid, length_of_layOut laidOut, ?below, ?vector, ?strings,
      fun small noZero => ?followed⟩
    case laid => rw [withArguments, laidOut]
    case below => rw [← belowLength, ← kept, shape, List.take_left]
    case vector =>
      have numbered := vector_eq_littleEndian (size - (packed texts).length) texts
      rw [List.length_map] at numbered
      rw [← numbered, ← belowLength, shape, List.drop_left, strings_eq_packed]
      exact List.take_left' ((length_vector _ texts).trans (by rw [List.length_map, vectorSize]))
    case strings =>
      rw [← strings_eq_packed, shape, ← List.append_assoc]
      exact List.drop_left' (by rw [List.length_append, length_vector, meet])
    case followed =>
      have found := followed?_of_layOut laidOut noZero small
      rwa [total] at found

end Process

end SixthEdition
