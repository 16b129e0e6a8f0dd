/-
This file proves that no process can forge a line of a listing. The images of
the processes hold whatever their programs have put there, and the records any
numbers at all, and yet every character between the ends of the lines is a
printable one.

What is recovered from an image is made of spaces, question marks and the
printable characters of its bytes. An equals sign is never among them, because
it ends the text and is left out itself, and the ends are free of spaces because
they are trimmed last.
-/

import SixthEdition.ProcessListing
import SixthEdition.Proofs.ProcessWalk

namespace SixthEdition

/-- A character that takes up one place in a line of plain text. -/
def IsPrintable (character : Char) : Prop :=
  32 ≤ character.toNat ∧ character.toNat ≤ 126

instance (character : Char) : Decidable (IsPrintable character) :=
  inferInstanceAs (Decidable (32 ≤ character.toNat ∧ character.toNat ≤ 126))

/-! ### Command lines -/

namespace CommandText

/-- A character of a command line. -/
def IsCommandCharacter (character : Char) : Prop :=
  IsPrintable character ∧ character ≠ '='

instance (character : Char) : Decidable (IsCommandCharacter character) :=
  inferInstanceAs (Decidable (IsPrintable character ∧ character ≠ '='))

theorem isCommandCharacter_ofNat {byte : UInt8} (printable : isPrintable byte = true)
    (notEquals : byte ≠ 61) : IsCommandCharacter (Char.ofNat byte.toNat) := by
  rw [isPrintable, Bool.and_eq_true, decide_eq_true_iff, decide_eq_true_iff,
    UInt8.le_iff_toNat_le, UInt8.le_iff_toNat_le] at printable
  have low : 32 ≤ byte.toNat := printable.1
  have high : byte.toNat ≤ 126 := printable.2
  have same : (Char.ofNat byte.toNat).toNat = byte.toNat := by
    rw [Char.ofNat, dif_pos (Or.inl (by omega))]
    rfl
  refine ⟨by rw [IsPrintable, same]; exact ⟨low, high⟩, fun equals => notEquals ?_⟩
  rw [equals] at same
  exact UInt8.toNat_inj.mp same.symm

theorem transcribe_all (unprintable : Nat) {reversed : List Char} {bytes : Bytes}
    (before : ∀ character ∈ reversed, IsCommandCharacter character) :
    ∀ character ∈ transcribe unprintable reversed bytes, IsCommandCharacter character := by
  induction bytes generalizing unprintable reversed with
  | nil => exact before
  | cons byte rest inductionHypothesis =>
    rw [transcribe]
    split
    · exact inductionHypothesis _ (List.forall_mem_cons.mpr ⟨by decide, before⟩)
    · split
      · intro character member
        exact before character ((List.dropWhile_sublist _).mem (List.mem_of_mem_tail member))
      · next notEquals =>
        split
        · next printable =>
          exact inductionHypothesis _
            (List.forall_mem_cons.mpr ⟨isCommandCharacter_ofNat printable notEquals, before⟩)
        · split
          · exact inductionHypothesis _ (List.forall_mem_cons.mpr ⟨by decide, before⟩)
          · exact before

theorem mem_of_mem_trimmed {reversed : List Char} {character : Char}
    (member : character ∈ trimmed reversed) : character ∈ reversed :=
  (List.dropWhile_sublist _).mem
    (List.mem_reverse.mp ((List.dropWhile_sublist _).mem member))

/-- What is trimmed starts with no space. -/
theorem head?_dropWhile_space (text : List Char) : (text.dropWhile (· = ' ')).head? ≠ some ' ' := by
  intro space
  have stopped := List.head?_dropWhile_not (· = ' ') text
  rw [space] at stopped
  exact absurd stopped (by decide)

theorem getLast?_trimmed (reversed : List Char) : (trimmed reversed).getLast? ≠ some ' ' := by
  rw [trimmed]
  intro space
  refine head?_dropWhile_space reversed ?_
  -- Taking spaces from the front of a text leaves its end where it is.
  obtain ⟨front, whole⟩ := List.dropWhile_suffix (p := (· = ' '))
    (l := (reversed.dropWhile (· = ' ')).reverse)
  rw [List.head?_eq_getLast?_reverse, ← whole, List.getLast?_append, space, Option.some_or]

/-- A recovered command line is a text without spaces at its ends and without any equals sign. -/
theorem isCommand_of_ofPage? {page : Bytes} {command : String}
    (found : ofPage? page = some command) :
    command ≠ "" ∧ command.toList.head? ≠ some ' ' ∧ command.toList.getLast? ≠ some ' ' ∧
      ∀ character ∈ command.toList, IsCommandCharacter character := by
  rw [ofPage?] at found
  split at found
  · cases found
  · next strings _ =>
    split at found
    · cases found
    · next notEmpty =>
      obtain rfl := Option.some.inj found
      rw [String.toList_ofList]
      refine ⟨?_, head?_dropWhile_space _, getLast?_trimmed _, fun character member => ?_⟩
      · intro empty
        exact notEmpty (String.ofList_eq_empty_iff.mp empty)
      · exact transcribe_all 0 (List.forall_mem_nil _) character (mem_of_mem_trimmed member)

end CommandText

/-! ### Fields -/

namespace ProcessListing

/-- A text of printable characters. -/
def IsPlainText (text : List Char) : Prop :=
  ∀ character ∈ text, IsPrintable character

instance (text : List Char) : Decidable (IsPlainText text) :=
  List.decidableBAll IsPrintable text

theorem isPrintable_of_isDigit {character : Char} (digit : character.isDigit = true) :
    IsPrintable character := by
  rw [Char.isDigit_iff_toNat] at digit
  have low : 48 ≤ character.toNat := digit.1
  have high : character.toNat ≤ 57 := digit.2
  exact ⟨by omega, by omega⟩

theorem isPlainText_toDigits {radix : Nat} (positive : 0 < radix) (small : radix ≤ 10)
    (number : Nat) : IsPlainText (Nat.toDigits radix number) :=
  fun _ member => isPrintable_of_isDigit (Nat.isDigit_of_mem_toDigits positive small member)

theorem isPlainText_decimal (number : Nat) : IsPlainText (Numeral.decimal number) :=
  isPlainText_toDigits (by decide) (by decide) number

theorem isPlainText_octal (number : Nat) : IsPlainText (Numeral.octal number) :=
  isPlainText_toDigits (by decide) (by decide) number

theorem isPlainText_signed (number : Int) : IsPlainText (Numeral.signed number) := by
  rw [Numeral.signed]
  split
  · exact List.forall_mem_cons.mpr ⟨by decide, isPlainText_decimal _⟩
  · exact isPlainText_decimal _

theorem isPlainText_append {first second : List Char} (plainFirst : IsPlainText first)
    (plainSecond : IsPlainText second) : IsPlainText (first ++ second) :=
  List.forall_mem_append.mpr ⟨plainFirst, plainSecond⟩

theorem isPlainText_spaces (count : Nat) : IsPlainText (List.replicate count ' ') :=
  List.forall_mem_replicate.mpr (Or.inr (by decide))

theorem isPlainText_right (width : Nat) {text : List Char} (plain : IsPlainText text) :
    IsPlainText (right width text) :=
  isPlainText_append (isPlainText_spaces _) plain

theorem isPlainText_left (width : Nat) {text : List Char} (plain : IsPlainText text) :
    IsPlainText (left width text) :=
  isPlainText_append plain (isPlainText_spaces _)

theorem isPlainText_terminalText (entry : ProcessEntry) : IsPlainText (terminalText entry) := by
  rw [terminalText]
  split
  · exact isPlainText_append (by decide) (isPlainText_decimal _)
  · decide

theorem isPlainText_statusText (record : ProcessRecord) : IsPlainText [statusText record] := by
  rw [statusText]
  split
  · next status _ => cases status <;> decide
  · decide

theorem isPlainText_waitText (record : ProcessRecord) : IsPlainText (waitText record) := by
  rw [waitText]
  split
  · exact List.forall_mem_nil _
  · exact isPlainText_octal _

/-- A process whose command, if it has one, is shown in printable characters. -/
def HasPlainCommand (entry : ProcessEntry) : Prop :=
  ∀ command, entry.command = some command → IsPlainText command.toList

theorem isPlainText_commandText {entry : ProcessEntry} (plain : HasPlainCommand entry) :
    IsPlainText (commandText entry) := by
  rw [commandText]
  split
  · next command shown => exact plain command shown
  · decide

theorem isPlainText_fields {entry : ProcessEntry} (plain : HasPlainCommand entry) (form : Form) :
    ∀ field ∈ fields entry form, IsPlainText field := by
  have terminal := isPlainText_left 5 (isPlainText_terminalText entry)
  have command := isPlainText_commandText plain
  have decimal (width number : Nat) := isPlainText_right width (isPlainText_decimal number)
  have octal (width number : Nat) := isPlainText_right width (isPlainText_octal number)
  have signed (width : Nat) (number : Int) := isPlainText_right width (isPlainText_signed number)
  cases form with
  | short =>
    simp only [fields, List.forall_mem_cons]
    exact ⟨decimal _ _, terminal, command, List.forall_mem_nil _⟩
  | long =>
    simp only [fields, List.forall_mem_cons]
    exact ⟨octal _ _, isPlainText_statusText _, decimal _ _, decimal _ _, decimal _ _, signed _ _,
      signed _ _, octal _ _, decimal _ _, isPlainText_right 6 (isPlainText_waitText _), terminal,
      command, List.forall_mem_nil _⟩

theorem isPlainText_titles (form : Form) : ∀ title ∈ titles form, IsPlainText title := by
  cases form <;> decide

/-! ### Lines -/

/-- A line without its end. -/
def row (fields : List (List Char)) : List Char :=
  [' '].intercalate fields

theorem isPlainText_row {fields : List (List Char)} (plain : ∀ field ∈ fields, IsPlainText field) :
    IsPlainText (row fields) := by
  induction fields with
  | nil => exact List.forall_mem_nil _
  | cons field rest inductionHypothesis =>
    obtain ⟨first, others⟩ := List.forall_mem_cons.mp plain
    cases rest with
    | nil =>
      rw [row, List.intercalate_singleton]
      exact first
    | cons second later =>
      rw [row, List.intercalate_cons_cons]
      exact isPlainText_append (isPlainText_append first (by decide)) (inductionHypothesis others)

/-- The lines of a listing without their ends. -/
def rows (form : Form) (entries : List ProcessEntry) : List (List Char) :=
  row (titles form) :: entries.map fun entry => row (fields entry form)

theorem toList_render (form : Form) (entries : List ProcessEntry) :
    (render form entries).toList = (rows form entries).flatMap (· ++ ['\n']) := by
  rw [render, String.toList_ofList, List.flatMap_def, lines, rows, List.map_cons, List.map_map]
  rfl

theorem isPlainText_rows {entries : List ProcessEntry}
    (plain : ∀ entry ∈ entries, HasPlainCommand entry) (form : Form) :
    ∀ line ∈ rows form entries, IsPlainText line := by
  refine List.forall_mem_cons.mpr ⟨isPlainText_row (isPlainText_titles form), ?_⟩
  rw [List.forall_mem_map]
  exact fun entry member => isPlainText_row (isPlainText_fields (plain entry member) form)

end ProcessListing

/-! ### What a lister prints -/

namespace Tables

theorem hasPlainCommand_walkEntry (tables : Tables) (slot : Nat) (process : Process) :
    ProcessListing.HasPlainCommand (tables.walkEntry slot process) := by
  intro command shown
  simp only [walkEntry] at shown
  split at shown
  · obtain rfl := Option.some.inj shown
    decide
  · split at shown
    · obtain rfl := Option.some.inj shown
      decide
    · intro character member
      exact ((CommandText.isCommand_of_ofPage? shown).2.2.2 character member).1

end Tables

namespace KernelReader

/-- No process can forge or spoil a listing. Over the standard switch, with an empty error slot, the
processes can always be listed, and either listing is the line of titles and one line for each
process in use: each line ends in a newline, and all its other characters are printable ones. What
is recovered as a command line from any page is never empty, has no space at either end, no equals
sign and no character that is not printable. -/
theorem listing_is_printable (kernel : Kernel) (quiet : kernel.error = none)
    (swap : Option DeviceNumber) :
    (∃ listed after,
      entries.run { switch := .standard, kernel, swap } = (.ok listed, after) ∧
      ∀ form, ∃ rows : List (List Char),
        (ProcessListing.render form listed).toList = rows.flatMap (· ++ ['\n']) ∧
        rows.length = 1 + kernel.tables.processes.entries.countP (·.record.status ≠ 0) ∧
        ∀ row ∈ rows, ∀ character ∈ row, 0x20 ≤ character.toNat ∧ character.toNat ≤ 0x7e) ∧
    ∀ page command, CommandText.ofPage? page = some command →
      command ≠ "" ∧ command.toList.head? ≠ some ' ' ∧ command.toList.getLast? ≠ some ' ' ∧
      ∀ character ∈ command.toList,
        (0x20 ≤ character.toNat ∧ character.toNat ≤ 0x7e) ∧ character ≠ '=' := by
  have serves : Serves ⟨.standard, kernel, swap⟩ := ⟨rfl, quiet⟩
  refine ⟨⟨_, _, entries_give serves, fun form => ?_⟩,
    fun page command found => CommandText.isCommand_of_ofPage? found⟩
  have plain : ∀ entry ∈ kernel.tables.walk, ProcessListing.HasPlainCommand entry := by
    rw [Tables.walk, List.forall_mem_map]
    exact fun place _ => kernel.tables.hasPlainCommand_walkEntry place.2 place.1
  refine ⟨ProcessListing.rows form kernel.tables.walk, ProcessListing.toList_render form _, ?_,
    ProcessListing.isPlainText_rows plain form⟩
  rw [ProcessListing.rows, List.length_cons, List.length_map, Tables.length_walk, Nat.add_comm]

/-- A record with an unknown state, over an image with a newline, one with its high bit set, an
escape character and a variable of the environment. -/
theorem listing_is_printable_of_forged_line :
    let processes : Table Process AddressMap.processSlots :=
      ⟨[⟨{}, []⟩, ⟨{ status := 200, flags := ⟨255⟩, id := 7 },
        [0xFF, 0xFF, 108, 115, 0, 10, 0x8A, 27, 0, 72, 61, 47]⟩], by decide⟩
    let kernel : Kernel := { tables := ⟨processes, .empty⟩ }
    kernel.error = none ∧
    kernel.tables.walk.map (·.command) = [some "ls ???"] ∧
    ∃ listed after, ∃ rows : List (List Char),
      entries.run { switch := .standard, kernel } = (.ok listed, after) ∧
      (ProcessListing.render .long listed).toList = rows.flatMap (· ++ ['\n']) ∧
      rows.length = 2 ∧
      ∀ row ∈ rows, ∀ character ∈ row, 0x20 ≤ character.toNat ∧ character.toNat ≤ 0x7e := by
  intro processes kernel
  obtain ⟨⟨listed, after, listing, shown⟩, -⟩ := listing_is_printable kernel rfl none
  obtain ⟨rows, text, count, plain⟩ := shown .long
  exact ⟨rfl, by decide +kernel, listed, after, rows, listing, text, count, plain⟩

end KernelReader

end SixthEdition
