/-
This file proves what is recovered from a page at whose top the arguments of a
program lie.

The word of ones is only seen where it is one of the whole words of the page. If
it is, the arguments are found, whatever lies below it. If it straddles two
words, nothing is found: neither the byte below it nor the byte above it is all
ones, and no other word of the vector has such a high byte.

The strings are shown one behind the other, each with a space for the zero byte
that ends it. Behind the last one come further spaces for the padding and for the
zeros after a short image, and trimming takes all of these away. It still does
where an equals sign cuts the line, because all of them stand behind that sign.
-/

import SixthEdition.Proofs.ArgumentLayout
import SixthEdition.Proofs.CommandWords

namespace SixthEdition.CommandText

/-! ### The word of ones -/

theorem afterMarker?_cons_cons (low high : UInt8) (rest : Bytes) :
    afterMarker? (low :: high :: rest) =
      (afterMarker? rest).or (if low = 0xFF ∧ high = 0xFF then some rest else none) := by
  rw [afterMarker?]
  cases afterMarker? rest <;> rfl

/-- What lies below at whole words only counts where there is no word of ones above it. -/
theorem afterMarker?_append (below page : Bytes) (whole : below.length % 2 = 0) :
    afterMarker? (below ++ page) =
      (afterMarker? page).or ((afterMarker? below).map (· ++ page)) := by
  match below, whole with
  | [], _ =>
    rw [List.nil_append, show afterMarker? [] = none from rfl, Option.map_none, Option.or_none]
  | low :: high :: rest, whole =>
    have restWhole : rest.length % 2 = 0 := by
      rw [List.length_cons, List.length_cons] at whole
      omega
    rw [List.cons_append, List.cons_append, afterMarker?_cons_cons, afterMarker?_cons_cons,
      afterMarker?_append rest page restWhole, Option.map_or, Option.or_assoc]
    by_cases ones : low = 0xFF ∧ high = 0xFF
    · rw [if_pos ones, if_pos ones, Option.map_some]
    · rw [if_neg ones, if_neg ones, Option.map_none]

theorem afterMarker?_eq_none {bytes : Bytes} (noOnes : ∀ byte ∈ bytes, byte ≠ 0xFF) :
    afterMarker? bytes = none := by
  match bytes with
  | [] => rfl
  | [_] => rfl
  | low :: high :: rest =>
    obtain ⟨lowNotOnes, above⟩ := List.forall_mem_cons.mp noOnes
    obtain ⟨-, restNoOnes⟩ := List.forall_mem_cons.mp above
    rw [afterMarker?_cons_cons, afterMarker?_eq_none restNoOnes, Option.none_or,
      if_neg fun ones => lowNotOnes ones.1]

theorem afterMarker?_of_whole {below strings : Bytes} (whole : below.length % 2 = 0)
    (noOnes : ∀ byte ∈ strings, byte ≠ 0xFF) :
    afterMarker? (below ++ [0xFF, 0xFF] ++ strings) = some strings := by
  have found : afterMarker? (0xFF :: 0xFF :: strings) = some strings := by
    rw [afterMarker?_cons_cons, afterMarker?_eq_none noOnes]
    rfl
  rw [List.append_assoc, afterMarker?_append _ _ whole, List.cons_append, List.singleton_append,
    found, Option.some_or]

/-- In the top page of an image, the bytes behind a word of ones are found, whatever lies below it,
if they fill whole words and leave room for it. -/
theorem afterMarker?_last {below strings : Bytes} (noOnes : ∀ byte ∈ strings, byte ≠ 0xFF)
    (even : strings.length % 2 = 0) (fits : strings.length ≤ 510)
    (long : 512 ≤ below.length + 2 + strings.length) :
    afterMarker? ((below ++ [0xFF, 0xFF] ++ strings).last 512) = some strings := by
  rw [Bytes.last, Arguments.length_marked, List.append_assoc,
    List.drop_append_of_le_length (by omega), ← List.append_assoc]
  refine afterMarker?_of_whole ?_ noOnes
  rw [List.length_drop]
  omega

/-- One byte further up, each pair of bytes starts with the high byte of a word. -/
theorem afterMarker?_of_straddling {first : UInt8} {words : List UInt16} {strings : Bytes}
    (firstNotOnes : first ≠ 0xFF) (highNotOnes : ∀ word ∈ words, (word >>> 8).toUInt8 ≠ 0xFF)
    (noOnes : ∀ byte ∈ strings, byte ≠ 0xFF) :
    afterMarker? (first :: (words.flatMap Word.toBytes ++ [0xFF, 0xFF] ++ strings)) = none := by
  have unmarked {low high : UInt8} {rest : Bytes} (notOnes : low ≠ 0xFF ∨ high ≠ 0xFF)
      (above : afterMarker? rest = none) : afterMarker? (low :: high :: rest) = none := by
    rw [afterMarker?_cons_cons, above, Option.none_or]
    exact if_neg fun ones => notOnes.elim (· ones.1) (· ones.2)
  induction words generalizing first with
  | nil =>
    show afterMarker? (first :: 0xFF :: 0xFF :: strings) = none
    refine unmarked (.inl firstNotOnes) ?_
    cases strings with
    | nil => rfl
    | cons byte rest =>
      obtain ⟨byteNotOnes, restNoOnes⟩ := List.forall_mem_cons.mp noOnes
      exact unmarked (.inr byteNotOnes) (afterMarker?_eq_none restNoOnes)
  | cons word rest inductionHypothesis =>
    obtain ⟨wordHigh, restHigh⟩ := List.forall_mem_cons.mp highNotOnes
    exact unmarked (.inl firstNotOnes) (inductionHypothesis wordHigh restHigh)

/-! ### The text -/

/-- A byte that stands for a character with a place on paper, or for a space. -/
def IsVisible (byte : UInt8) : Prop :=
  32 ≤ byte ∧ byte ≤ 126

instance (byte : UInt8) : Decidable (IsVisible byte) :=
  inferInstanceAs (Decidable (32 ≤ byte ∧ byte ≤ 126))

/-- A byte that a command line shows as it is. -/
def IsPlain (byte : UInt8) : Prop :=
  32 ≤ byte ∧ byte ≤ 126 ∧ byte ≠ 61

instance (byte : UInt8) : Decidable (IsPlain byte) :=
  inferInstanceAs (Decidable (32 ≤ byte ∧ byte ≤ 126 ∧ byte ≠ 61))

theorem IsPlain.isVisible {byte : UInt8} (plain : IsPlain byte) : IsVisible byte :=
  ⟨plain.1, plain.2.1⟩

/-- A byte of argument strings: a visible one, or the zero that ends a string. -/
def IsText (byte : UInt8) : Prop :=
  byte = 0 ∨ IsVisible byte

instance (byte : UInt8) : Decidable (IsText byte) :=
  inferInstanceAs (Decidable (byte = 0 ∨ IsVisible byte))

/-- The character for a byte of argument strings. -/
def shown (byte : UInt8) : Char :=
  if byte = 0 then ' ' else Char.ofNat byte.toNat

theorem eq_of_shown_eq_equals {byte : UInt8} (equals : shown byte = '=') : byte = 61 := by
  have onlySign : ∀ number < 256, shown (UInt8.ofNat number) = '=' → number = 61 := by
    decide +kernel
  rw [← UInt8.ofNat_toNat (x := byte)] at equals
  exact UInt8.toNat_inj.mp (onlySign byte.toNat byte.toNat_lt equals)

theorem noEquals_map_shown {bytes : Bytes} (noEquals : 61 ∉ bytes) : '=' ∉ bytes.map shown := by
  intro inside
  obtain ⟨byte, member, equals⟩ := List.mem_map.mp inside
  exact noEquals (eq_of_shown_eq_equals equals ▸ member)

theorem sevenBits_of_isVisible {byte : UInt8} (visible : IsVisible byte) :
    byte &&& 0o177 = byte := by
  have bounded : byte.toNat ≤ 126 := visible.2
  apply UInt8.toNat_inj.mp
  rw [Bytes.toNat_lowSeven, Nat.mod_eq_of_lt (by omega)]

/-- Text without an equals sign is taken over character by character, whatever follows it. -/
theorem transcribe_append (unprintable : Nat) (reversed : List Char) {bytes : Bytes}
    (text : ∀ byte ∈ bytes, IsText byte) (noEquals : 61 ∉ bytes) (rest : Bytes) :
    transcribe unprintable reversed (bytes ++ rest) =
      transcribe unprintable ((bytes.map shown).reverse ++ reversed) rest := by
  induction bytes generalizing reversed with
  | nil => rfl
  | cons byte later inductionHypothesis =>
    obtain ⟨first, others⟩ := List.forall_mem_cons.mp text
    obtain ⟨notEquals, noLaterEquals⟩ := not_or.mp (mt List.mem_cons.mpr noEquals)
    have step : transcribe unprintable reversed (byte :: (later ++ rest)) =
        transcribe unprintable (shown byte :: reversed) (later ++ rest) := by
      rcases first with rfl | visible
      · rfl
      · have notZero : byte ≠ 0 := by
          rintro rfl
          exact absurd visible.1 (by decide)
        have printable : isPrintable byte = true := by
          rw [isPrintable, decide_eq_true visible.1, decide_eq_true visible.2]
          rfl
        rw [transcribe, sevenBits_of_isVisible visible, shown, if_neg notZero, if_neg notZero,
          if_neg (Ne.symm notEquals), if_pos printable]
    rw [List.cons_append, step, inductionHypothesis _ others noLaterEquals, List.map_cons,
      List.reverse_cons, List.append_assoc, List.singleton_append]

/-- Text is taken over up to the word with the first equals sign. -/
theorem reverse_transcribe {bytes : Bytes} (text : ∀ byte ∈ bytes, IsText byte) :
    (transcribe 0 [] bytes).reverse = beforeVariable (bytes.map shown) := by
  by_cases equals : 61 ∈ bytes
  · obtain ⟨before, after, rfl, noEquals⟩ := List.eq_append_cons_of_mem equals
    obtain ⟨textBefore, -⟩ := List.forall_mem_append.mp text
    rw [transcribe_append 0 [] textBefore noEquals, List.append_nil, List.map_append,
      List.map_cons]
    exact (beforeVariable_append_cons (noEquals_map_shown noEquals) (after.map shown)).symm
  · have whole := transcribe_append 0 [] text equals []
    rw [List.append_nil, List.append_nil] at whole
    rw [whole, beforeVariable_of_not_mem (noEquals_map_shown equals)]
    exact List.reverse_reverse _

/-- A text without the spaces at its ends. -/
def trim (text : List Char) : List Char :=
  (text.reverse.dropWhile (· = ' ')).reverse.dropWhile (· = ' ')

theorem trim_append_spaces (text : List Char) (count : Nat) :
    trim (text ++ List.replicate count ' ') = trim text := by
  have spaces : ∀ character ∈ List.replicate count ' ', decide (character = ' ') = true :=
    fun character member => decide_eq_true (List.eq_of_mem_replicate member)
  rw [trim, List.reverse_append, List.reverse_replicate, List.dropWhile_append_of_pos spaces, trim]

theorem trimmed_eq_trim (reversed : List Char) : trimmed reversed = trim reversed.reverse := by
  rw [trim, List.reverse_reverse]
  rfl

/-- Spaces behind a text do not matter to what is left in front of its first variable. -/
theorem trim_beforeVariable_append_spaces (text : List Char) (count : Nat) :
    trim (beforeVariable (text ++ List.replicate count ' ')) = trim (beforeVariable text) := by
  by_cases equals : '=' ∈ text
  · obtain ⟨before, after, rfl, noEquals⟩ := List.eq_append_cons_of_mem equals
    rw [List.append_assoc, List.cons_append, beforeVariable_append_cons noEquals,
      beforeVariable_append_cons noEquals]
  · have noEquals : '=' ∉ text ++ List.replicate count ' ' := by
      rw [List.mem_append, not_or]
      exact ⟨equals, fun inside => absurd (List.eq_of_mem_replicate inside) (by decide)⟩
    rw [beforeVariable_of_not_mem noEquals, beforeVariable_of_not_mem equals, trim_append_spaces]

/-- The command line that arguments make: these with single spaces between them, without the
spaces at the ends, if anything is left. -/
def commandLine? (arguments : List String) : Option String :=
  match trim (" ".intercalate arguments).toList with
  | [] => none
  | text => some (String.ofList text)

/-- The command line that arguments make when a variable of the environment may be among them: what
stands in front of the first word with an equals sign in it, without the spaces at the ends, if
anything is left. -/
def commandBeforeVariable? (arguments : List String) : Option String :=
  match trim (beforeVariable (" ".intercalate arguments).toList) with
  | [] => none
  | text => some (String.ofList text)

theorem ofText_eq (text : String) :
    Bytes.ofText text = text.toList.flatMap String.utf8EncodeChar := by
  rw [Bytes.ofText, String.toUTF8, ← String.utf8Encode_toList]
  exact List.toList_data_toByteArray

/-- A character that is encoded in visible bytes is encoded in one byte, and is shown as itself. -/
theorem map_shown_utf8EncodeChar {character : Char}
    (visible : ∀ byte ∈ String.utf8EncodeChar character, IsVisible byte) :
    (String.utf8EncodeChar character).map shown = [character] := by
  by_cases single : character.val.toNat ≤ 0x7F
  · have encoded : String.utf8EncodeChar character = [UInt8.ofNat character.val.toNat] := by
      simp only [String.utf8EncodeChar, if_pos single]
    have same : (UInt8.ofNat character.val.toNat).toNat = character.val.toNat :=
      UInt8.toNat_ofNat_of_lt' (Nat.lt_of_le_of_lt single (by decide))
    have notZero : UInt8.ofNat character.val.toNat ≠ 0 := by
      intro zero
      have above := (visible _ (encoded ▸ List.mem_singleton_self _)).1
      rw [zero] at above
      exact absurd above (by decide)
    rw [encoded, List.map_singleton, shown, if_neg notZero, same]
    exact congrArg (fun shown => [shown]) (Char.ofNat_toNat character)
  · -- The last byte of a longer encoding is above 127.
    have last : UInt8.ofNat (character.val.toNat % 0x40 + 0x80) ∈
        String.utf8EncodeChar character := by
      simp only [String.utf8EncodeChar, if_neg single]
      split
      · simp only [List.mem_cons, true_or, or_true]
      · split <;> simp only [List.mem_cons, true_or, or_true]
    have bounded : (UInt8.ofNat (character.val.toNat % 0x40 + 0x80)).toNat ≤ 126 :=
      (visible _ last).2
    rw [UInt8.toNat_ofNat_of_lt' (by show _ < 256; omega)] at bounded
    omega

theorem map_shown_ofText {text : String}
    (visible : ∀ byte ∈ Bytes.ofText text, IsVisible byte) :
    (Bytes.ofText text).map shown = text.toList := by
  rw [ofText_eq] at *
  generalize text.toList = characters at *
  induction characters with
  | nil => rfl
  | cons character rest inductionHypothesis =>
    rw [List.flatMap_cons] at *
    obtain ⟨first, others⟩ := List.forall_mem_append.mp visible
    rw [List.map_append, map_shown_utf8EncodeChar first, inductionHypothesis others,
      List.singleton_append]

/-- Texts that each end in a space are these with single spaces between them, and at most one space
behind the last. -/
theorem flatMap_space_eq (texts : List (List Char)) :
    ∃ spaces, texts.flatMap (· ++ [' ']) =
      [' '].intercalate texts ++ List.replicate spaces ' ' := by
  induction texts with
  | nil => exact ⟨0, rfl⟩
  | cons text rest inductionHypothesis =>
    cases rest with
    | nil =>
      refine ⟨1, ?_⟩
      rw [List.flatMap_singleton, List.intercalate_singleton]
      rfl
    | cons second later =>
      obtain ⟨spaces, joined⟩ := inductionHypothesis
      refine ⟨spaces, ?_⟩
      rw [List.flatMap_cons, joined, List.intercalate_cons_cons, List.append_assoc,
        List.append_assoc, List.append_assoc]

/-- No byte of an encoded character is all ones. -/
theorem ne_ones_of_mem_utf8EncodeChar {character : Char} {byte : UInt8}
    (member : byte ∈ String.utf8EncodeChar character) : byte ≠ 0xFF := by
  have small (number : Nat) (bounded : number < 0xF8) : UInt8.ofNat number ≠ 0xFF := by
    intro ones
    have equal : number % 2 ^ 8 = 255 := congrArg UInt8.toNat ones
    omega
  -- The first byte of an encoding in four bytes is the highest, and at most 247.
  simp only [String.utf8EncodeChar] at member
  split at member
  · rw [List.mem_singleton] at member
    exact member ▸ small _ (by omega)
  · split at member
    · simp only [List.mem_cons, List.not_mem_nil, or_false] at member
      rcases member with rfl | rfl <;> exact small _ (by omega)
    · split at member
      · simp only [List.mem_cons, List.not_mem_nil, or_false] at member
        rcases member with rfl | rfl | rfl <;> exact small _ (by omega)
      · simp only [List.mem_cons, List.not_mem_nil, or_false] at member
        rcases member with rfl | rfl | rfl | rfl <;> exact small _ (by omega)

/-- No byte of argument strings is all ones, whatever texts the arguments are. -/
theorem ne_ones_of_mem_strings {arguments : List String} :
    ∀ byte ∈ Arguments.strings (arguments.map Bytes.ofText), byte ≠ 0xFF := by
  refine Arguments.forall_mem_strings (by decide) fun argument member byte inside => ?_
  obtain ⟨text, -, rfl⟩ := List.mem_map.mp member
  rw [ofText_eq] at inside
  obtain ⟨character, -, encoded⟩ := List.mem_flatMap.mp inside
  exact ne_ones_of_mem_utf8EncodeChar encoded

section Visible

variable {arguments : List String}
  (visible : ∀ argument ∈ arguments, ∀ byte ∈ Bytes.ofText argument, IsVisible byte)
include visible

/-- The arguments of a program are shown with spaces between and behind them. -/
theorem map_shown_strings :
    ∃ spaces, (Arguments.strings (arguments.map Bytes.ofText)).map shown =
      (" ".intercalate arguments).toList ++ List.replicate spaces ' ' := by
  have texts : ((arguments.map Bytes.ofText).flatMap (· ++ [0])).map shown =
      (arguments.map String.toList).flatMap (· ++ [' ']) := by
    rw [List.map_flatMap, List.flatMap_map, List.flatMap_map]
    refine congrArg List.flatten (List.map_congr_left fun argument member => ?_)
    rw [List.map_append, map_shown_ofText (visible argument member)]
    rfl
  obtain ⟨spaces, joined⟩ := flatMap_space_eq (arguments.map String.toList)
  rw [← texts, show [' '] = " ".toList from rfl, ← String.toList_intercalate] at joined
  rw [Arguments.strings, Arguments.wordPadded]
  split
  · exact ⟨spaces, joined⟩
  · refine ⟨spaces + 1, ?_⟩
    rw [List.map_append, joined, List.replicate_succ', List.append_assoc]
    rfl

/-- Visible arguments and the zeros that end them are all that the strings hold. -/
theorem isText_strings :
    ∀ byte ∈ Arguments.strings (arguments.map Bytes.ofText), IsText byte := by
  refine Arguments.forall_mem_strings (.inl rfl) fun argument member byte inside => ?_
  obtain ⟨text, textMember, rfl⟩ := List.mem_map.mp member
  exact .inr (visible text textMember byte inside)

/-- Found in a page, with zeros behind them, visible arguments make the command line that ends in
front of the first variable. -/
theorem ofPage?_of_visible {page : Bytes} {zeros : Nat}
    (found : afterMarker? page =
      some (Arguments.strings (arguments.map Bytes.ofText) ++ List.replicate zeros 0)) :
    ofPage? page = commandBeforeVariable? arguments := by
  obtain ⟨spaces, shownStrings⟩ := map_shown_strings visible
  have readable : ∀ byte ∈ Arguments.strings (arguments.map Bytes.ofText) ++
      List.replicate zeros 0, IsText byte :=
    List.forall_mem_append.mpr
      ⟨isText_strings visible, List.forall_mem_replicate.mpr (.inr (.inl rfl))⟩
  have text : trimmed (transcribe 0 [] (Arguments.strings (arguments.map Bytes.ofText) ++
      List.replicate zeros 0)) = trim (beforeVariable (" ".intercalate arguments).toList) := by
    rw [trimmed_eq_trim, reverse_transcribe readable, List.map_append, shownStrings,
      List.map_replicate]
    show trim (beforeVariable ((" ".intercalate arguments).toList ++ List.replicate spaces ' ' ++
      List.replicate zeros ' ')) = _
    rw [trim_beforeVariable_append_spaces, trim_beforeVariable_append_spaces]
  simp only [ofPage?, found, text]
  rfl

end Visible

/-- Without an equals sign in them, the arguments make their whole command line. -/
theorem commandBeforeVariable?_of_plain {arguments : List String}
    (plain : ∀ argument ∈ arguments, ∀ byte ∈ Bytes.ofText argument, IsPlain byte) :
    commandBeforeVariable? arguments = commandLine? arguments := by
  have noEquals : 61 ∉ Arguments.strings (arguments.map Bytes.ofText) := by
    have different : ∀ byte ∈ Arguments.strings (arguments.map Bytes.ofText), byte ≠ 61 := by
      refine Arguments.forall_mem_strings (by decide) fun argument member byte inside => ?_
      obtain ⟨text, textMember, rfl⟩ := List.mem_map.mp member
      exact (plain text textMember byte inside).2.2
    exact fun inside => different 61 inside rfl
  obtain ⟨spaces, shownStrings⟩ := map_shown_strings fun argument member byte inside =>
    (plain argument member byte inside).isVisible
  have joinedNoEquals : '=' ∉ (" ".intercalate arguments).toList := by
    have shownNoEquals := noEquals_map_shown noEquals
    rw [shownStrings] at shownNoEquals
    exact fun inside => shownNoEquals (List.mem_append_left _ inside)
  rw [commandBeforeVariable?, beforeVariable_of_not_mem joinedNoEquals]
  rfl

/-- Found in a page, with zeros behind them, plain arguments make their command line. -/
theorem ofPage?_of_afterMarker? {page : Bytes} {arguments : List String} {zeros : Nat}
    (plain : ∀ argument ∈ arguments, ∀ byte ∈ Bytes.ofText argument, IsPlain byte)
    (found : afterMarker? page =
      some (Arguments.strings (arguments.map Bytes.ofText) ++ List.replicate zeros 0)) :
    ofPage? page = commandLine? arguments := by
  rw [ofPage?_of_visible (fun argument member byte inside =>
    (plain argument member byte inside).isVisible) found, commandBeforeVariable?_of_plain plain]

end SixthEdition.CommandText
