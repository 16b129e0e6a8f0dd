/-
This file proves which command line is listed for a process that was described.
The arguments go to the top of an image that is otherwise zero, the page at the
top of the image comes back through kernel memory, and the arguments are looked
for behind a word of ones that is one of the whole words of the page.

A page of a long image ends where the image ends, so that this word is where it
is looked for however long the image is. A short image starts where the page
starts. When it does not have whole words the word of ones straddles two words
of the page, and no command line is listed although the arguments are there.
-/

import SixthEdition.Proofs.Building
import SixthEdition.Proofs.CommandRecovery
import SixthEdition.Proofs.ProcessWalk

namespace SixthEdition

open CommandText

/-! ### The page of a described process -/

namespace Tables

theorem lastPage_of_long {image : Bytes} (long : 512 ≤ image.length) :
    lastPage image = image.last 512 :=
  if_pos long

theorem lastPage_of_short {image : Bytes} (short : image.length < 512) :
    lastPage image = image ++ List.replicate (512 - image.length) 0 :=
  if_neg (Nat.not_le_of_lt short)

theorem noOnes_append_zeros {strings : Bytes} (noOnes : ∀ byte ∈ strings, byte ≠ 0xFF)
    (zeros : Nat) : ∀ byte ∈ strings ++ List.replicate zeros 0, byte ≠ 0xFF :=
  List.forall_mem_append.mpr ⟨noOnes, List.forall_mem_replicate.mpr (.inr (by decide))⟩

/-- Whatever lies below them, strings at the top of an image are found in its page if they fit in
there and the page keeps its words whole. -/
theorem afterMarker?_lastPage {below strings : Bytes} (noOnes : ∀ byte ∈ strings, byte ≠ 0xFF)
    (even : strings.length % 2 = 0) (fits : strings.length ≤ 510)
    (whole : 512 ≤ (below ++ [0xFF, 0xFF] ++ strings).length ∨ below.length % 2 = 0) :
    ∃ zeros, afterMarker? (lastPage (below ++ [0xFF, 0xFF] ++ strings)) =
      some (strings ++ List.replicate zeros 0) := by
  have length := Arguments.length_marked below strings
  rw [length] at whole
  by_cases long : 512 ≤ below.length + 2 + strings.length
  · refine ⟨0, ?_⟩
    rw [lastPage_of_long (by rw [length]; exact long), List.replicate_zero, List.append_nil]
    exact afterMarker?_last noOnes even fits long
  · refine ⟨512 - (below.length + 2 + strings.length), ?_⟩
    rw [lastPage_of_short (by rw [length]; exact Nat.lt_of_not_le long), length,
      List.append_assoc _ strings]
    exact afterMarker?_of_whole (whole.resolve_left long) (noOnes_append_zeros noOnes _)

/-- In a short image without whole words the word of ones is never seen. -/
theorem afterMarker?_lastPage_eq_none {arguments : List Bytes} {size : Nat} {laid : Bytes}
    (laidOut : Arguments.layOut arguments (List.replicate size 0) = .ok laid)
    (noOnes : ∀ byte ∈ Arguments.strings arguments, byte ≠ 0xFF)
    (short : size < 512) (odd : size % 2 = 1) :
    afterMarker? (lastPage laid) = none := by
  have length : laid.length = size := by
    rw [Arguments.length_of_layOut laidOut, List.length_replicate]
  obtain ⟨fits, shape⟩ := Arguments.eq_of_layOut laidOut
  rw [List.length_replicate] at fits shape
  have even := Arguments.length_strings_even arguments
  -- All that lies below the vector is zero, an odd number of bytes.
  obtain ⟨half, below⟩ : ∃ half, size -
      (Arguments.vectorSize arguments.length + (Arguments.strings arguments).length) =
        2 * half + 1 := by
    refine ⟨(size - (Arguments.vectorSize arguments.length +
      (Arguments.strings arguments).length)) / 2, ?_⟩
    rw [Arguments.vectorSize] at *
    omega
  have page : lastPage laid = List.replicate (2 * half) 0 ++
      (0 :: ((Arguments.pointers (size - (Arguments.strings arguments).length)
        arguments).flatMap Word.toBytes ++ [0xFF, 0xFF] ++
        (Arguments.strings arguments ++ List.replicate (512 - size) 0))) := by
    rw [lastPage_of_short (by rw [length]; exact short), length, shape, List.take_replicate,
      Nat.min_eq_left (Nat.sub_le ..), below, List.replicate_succ']
    simp only [List.append_assoc, List.cons_append, List.nil_append]
  have zeros : ∀ byte ∈ List.replicate (2 * half) (0 : UInt8), byte ≠ 0xFF :=
    List.forall_mem_replicate.mpr (.inr (by decide))
  rw [page, afterMarker?_append _ _ (by rw [List.length_replicate, Nat.mul_mod_right]),
    afterMarker?_of_straddling (by decide)
      (fun word => Arguments.high_ne_ones_of_mem_pointers fits (by omega))
      (noOnes_append_zeros noOnes _),
    afterMarker?_eq_none zeros]
  rfl

/-- The command line that is found for plain arguments on an image of zeros. -/
theorem ofPage?_lastPage {arguments : List String} {size : Nat} {laid : Bytes}
    (laidOut : Arguments.layOut (arguments.map Bytes.ofText) (List.replicate size 0) = .ok laid)
    (plain : ∀ argument ∈ arguments, ∀ byte ∈ Bytes.ofText argument, IsPlain byte)
    (fits : (Arguments.strings (arguments.map Bytes.ofText)).length ≤ 510) :
    ofPage? (lastPage laid) =
      if size < 512 ∧ size % 2 = 1 then none else commandLine? arguments := by
  have noOnes : ∀ byte ∈ Arguments.strings (arguments.map Bytes.ofText), byte ≠ 0xFF :=
    ne_ones_of_mem_strings
  split
  case isTrue broken =>
    rw [ofPage?, afterMarker?_lastPage_eq_none laidOut noOnes broken.1 broken.2]
  case isFalse unbroken =>
    have even := Arguments.length_strings_even (arguments.map Bytes.ofText)
    obtain ⟨below, rfl, length⟩ := Arguments.exists_below_of_layOut laidOut
    rw [List.length_replicate] at length
    have whole : 512 ≤ (below ++ [0xFF, 0xFF] ++
        Arguments.strings (arguments.map Bytes.ofText)).length ∨ below.length % 2 = 0 := by
      rw [Arguments.length_marked]
      omega
    obtain ⟨zeros, found⟩ := afterMarker?_lastPage noOnes even fits whole
    exact ofPage?_of_afterMarker? plain found

/-- Where all slots are in use, each process keeps its slot in the walk. -/
theorem walk_eq_of_used {tables : Tables}
    (used : ∀ process ∈ tables.processes.entries, process.record.status ≠ 0) :
    tables.walk = tables.processes.entries.mapIdx fun slot process =>
      tables.walkEntry slot process := by
  have all : tables.occupied = tables.processes.entries.zipIdx := by
    refine List.filter_eq_self.mpr fun (process, slot) member => ?_
    have found := List.mem_zipIdx_iff_getElem?.mp member
    exact decide_eq_true (used process (List.mem_of_getElem? found))
  rw [walk, all, List.mapIdx_eq_zipIdx_map]

end Tables

/-! ### The list of a described system -/

theorem ProcessStatus.number_ne_zero (status : ProcessStatus) : status.number ≠ 0 := by
  cases status <;> decide

theorem ProcessStatus.eq_zombie_of_number {status : ProcessStatus} (five : status.number = 5) :
    status = .zombie := by
  cases status <;> first | rfl | cases five

namespace KernelReader

/-- Of each process of a system that was built from its description, the standard switch shows one
entry. For a process that is neither a zombie nor the swapper and whose arguments are plain and fit
into a page, the entry has the command line that the arguments make, on any image but one that is
shorter than a page and has an odd number of bytes. On such an image no command line is listed. -/
theorem entries_give_described_commands (description : Description) (tables : Tables)
    (built : description.build = .ok tables) :
    ∃ listed after,
      entries.run { switch := .standard, kernel := { tables } } = (.ok listed, after) ∧
      listed.length = description.processes.length ∧
      ∀ (slot : Nat) (process : ProcessDescription), description.processes[slot]? = some process →
        process.status ≠ .zombie → process.id ≠ 0 →
        (∀ argument ∈ process.arguments, ∀ byte ∈ Bytes.ofText argument,
          32 ≤ byte ∧ byte ≤ 126 ∧ byte ≠ 61) →
        (Arguments.strings (process.arguments.map Bytes.ofText)).length ≤ 510 →
        ∃ entry, listed[slot]? = some entry ∧ entry.record.id = process.id ∧
          entry.command =
            if process.imageSize.toNat < 512 ∧ process.imageSize.toNat % 2 = 1 then none
            else commandLine? process.arguments := by
  obtain ⟨-, laid⟩ := Description.laid_of_build built
  have used : ∀ process ∈ tables.processes.entries, process.record.status ≠ 0 := by
    intro process member
    obtain ⟨described, -, click, describes⟩ := laid.exists_description member
    rw [describes.status_eq]
    exact described.status.number_ne_zero
  refine ⟨tables.walk, _, entries_give ⟨rfl, rfl⟩, ?_, ?_⟩
  · rw [Tables.walk_eq_of_used used, List.length_mapIdx, laid.length_eq]
  · intro slot described here notZombie notSwapper plain fits
    obtain ⟨process, click, found, describes⟩ := laid.exists_process here
    refine ⟨tables.walkEntry slot process, ?_, describes.id_eq, ?_⟩
    · rw [Tables.walk_eq_of_used used, List.getElem?_mapIdx, found]
      rfl
    · have alive : process.record.status ≠ 5 := by
        rw [describes.status_eq]
        exact fun five => notZombie (ProcessStatus.eq_zombie_of_number five)
      rw [Tables.walkEntry, if_neg alive, describes.id_eq, if_neg notSwapper]
      exact Tables.ofPage?_lastPage describes.image_eq plain fits

/-- The same arguments on a short image with an odd and on one with an even number of bytes. -/
theorem entries_give_described_commands_on_short_images :
    let description : Description :=
      { processes :=
          [{ id := 1, arguments := ["ls", "-l"], imageSize := 15 },
            { id := 2, arguments := ["ls", "-l"], imageSize := 16 }] }
    ∃ tables listed after, description.build = .ok tables ∧
      entries.run { switch := .standard, kernel := { tables } } = (.ok listed, after) ∧
      (∃ entry, listed[0]? = some entry ∧ entry.command = none) ∧
      ∃ entry, listed[1]? = some entry ∧ entry.command = some "ls -l" := by
  intro description
  obtain ⟨tables, built⟩ : ∃ tables, description.build = .ok tables := ⟨_, rfl⟩
  obtain ⟨listed, after, run, -, each⟩ := entries_give_described_commands description tables built
  obtain ⟨first, here, -, hidden⟩ := each 0 _ rfl (by decide) (by decide) (by decide +kernel)
    (by decide +kernel)
  obtain ⟨second, there, -, seen⟩ := each 1 _ rfl (by decide) (by decide) (by decide +kernel)
    (by decide +kernel)
  have whole : commandLine? ["ls", "-l"] = some "ls -l" := by decide +kernel
  exact ⟨tables, listed, after, built, run, ⟨first, here, hidden⟩, second, there,
    seen.trans whole⟩

/-- A process with one argument, on an image of nine bytes, is listed without a command line. -/
theorem described_command_hidden_by_odd_image :
    ∃ (process : ProcessDescription) (tables : Tables) (entry : ProcessEntry)
      (after : KernelReader),
      ({ processes := [process] } : Description).build = .ok tables ∧
      process.status ≠ .zombie ∧ process.id ≠ 0 ∧
      (∀ argument ∈ process.arguments, ∀ byte ∈ Bytes.ofText argument,
        32 ≤ byte ∧ byte ≤ 126 ∧ byte ≠ 61) ∧
      (Arguments.strings (process.arguments.map Bytes.ofText)).length ≤ 510 ∧
      entries.run { switch := .standard, kernel := { tables } } = (.ok [entry], after) ∧
      entry.command = none ∧ commandLine? process.arguments = some "a" := by
  refine ⟨{ id := 1, arguments := ["a"], imageSize := 9 }, _, _, _, rfl, by decide, by decide,
    by decide +kernel, by decide +kernel, entries_give ⟨rfl, rfl⟩, ?_, ?_⟩
  · decide +kernel
  · decide +kernel

end KernelReader

end SixthEdition
