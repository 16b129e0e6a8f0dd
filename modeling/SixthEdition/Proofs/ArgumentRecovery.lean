/-
This file proves that a command line can be recovered from the top page of an
image exactly when the arguments leave room in it for the word of ones below
them. What else is in the image does not matter, be it words of ones or places of
strings that look like one: the last word of ones is the one that was laid out,
because no text has a byte of ones in it.

Nor does it matter whether the image has whole words. The page ends where the
image ends, and from there down the strings and the word of ones fill whole words
of the page.
-/

import SixthEdition.Process.Basic
import SixthEdition.Proofs.CommandRecovery

namespace SixthEdition

namespace Process

theorem layOut_of_withArguments {process laid : Process} {arguments : List String}
    (accepted : process.withArguments arguments = .ok laid) :
    Arguments.layOut (arguments.map Bytes.ofText) process.image = .ok laid.image := by
  rw [withArguments] at accepted
  split at accepted
  case h_1 image laidOut =>
    rw [← Except.ok.inj accepted, laidOut]
  case h_2 => cases accepted

end Process

namespace CommandText

section Page

variable {process laid : Process} {arguments : List String}
  (accepted : process.withArguments arguments = .ok laid)
include accepted

/-- Strings with room below them in the page are all that is found behind its last word of ones. -/
theorem afterMarker?_of_room (fullPage : 512 ≤ process.image.length)
    (room : (Arguments.strings (arguments.map Bytes.ofText)).length ≤ 510) :
    afterMarker? (laid.image.last 512) =
      some (Arguments.strings (arguments.map Bytes.ofText)) := by
  have even := Arguments.length_strings_even (arguments.map Bytes.ofText)
  obtain ⟨below, shape, length⟩ :=
    Arguments.exists_below_of_layOut (Process.layOut_of_withArguments accepted)
  rw [shape]
  exact afterMarker?_last ne_ones_of_mem_strings even room (length.symm ▸ fullPage)

/-- A page that is full of the ends of strings has no word of ones. -/
theorem afterMarker?_of_no_room
    (noRoom : 510 < (Arguments.strings (arguments.map Bytes.ofText)).length) :
    afterMarker? (laid.image.last 512) = none := by
  have even := Arguments.length_strings_even (arguments.map Bytes.ofText)
  obtain ⟨below, shape, -⟩ :=
    Arguments.exists_below_of_layOut (Process.layOut_of_withArguments accepted)
  have inStrings : ∀ byte ∈ laid.image.last 512,
      byte ∈ Arguments.strings (arguments.map Bytes.ofText) := by
    intro byte member
    rw [shape, Bytes.last, List.length_append, List.drop_append,
      List.drop_of_length_le (by omega), List.nil_append] at member
    exact List.mem_of_mem_drop member
  exact afterMarker?_eq_none fun byte member =>
    ne_ones_of_mem_strings byte (inStrings byte member)

end Page

/-- The arguments of a program on an image of at least a page, as they are found in its top page.
If their strings leave no room for the word of ones, no command line is found. Otherwise it depends
on the strings alone, whatever the length and the other bytes of the image; and if all bytes of the
arguments are visible it is the arguments with single spaces between them, up to the first word with
an equals sign in it and without the spaces at the ends, if anything is left. -/
theorem page_recovers_arguments (process laid : Process) (arguments : List String)
    (fullPage : 512 ≤ process.image.length)
    (accepted : process.withArguments arguments = .ok laid) :
    let strings := Arguments.strings (arguments.map Bytes.ofText)
    (510 < strings.length → ofPage? (laid.image.last 512) = none) ∧
    (strings.length ≤ 510 →
      (∀ argument ∈ arguments, ∀ byte ∈ Bytes.ofText argument, 32 ≤ byte ∧ byte ≤ 126) →
      ofPage? (laid.image.last 512) = commandBeforeVariable? arguments) ∧
    (strings.length ≤ 510 →
      ∀ (other otherLaid : Process) (otherArguments : List String),
        512 ≤ other.image.length → other.withArguments otherArguments = .ok otherLaid →
        Arguments.strings (otherArguments.map Bytes.ofText) = strings →
        ofPage? (otherLaid.image.last 512) = ofPage? (laid.image.last 512)) := by
  intro strings
  refine ⟨?_, ?_, ?_⟩
  · intro noRoom
    rw [ofPage?, afterMarker?_of_no_room accepted noRoom]
  · intro room visible
    have found : afterMarker? (laid.image.last 512) =
        some (strings ++ List.replicate 0 0) := by
      rw [List.replicate_zero, List.append_nil]
      exact afterMarker?_of_room accepted fullPage room
    exact ofPage?_of_visible visible found
  · intro room other otherLaid otherArguments otherFull otherAccepted same
    have otherRoom : (Arguments.strings (otherArguments.map Bytes.ofText)).length ≤ 510 := by
      rw [same]
      exact room
    rw [ofPage?, ofPage?, afterMarker?_of_room accepted fullPage room,
      afterMarker?_of_room otherAccepted otherFull otherRoom, same]

/-- An odd image full of ones, with an empty argument, one with a space in it, and one that reads
like a variable of the environment. -/
theorem page_recovers_arguments_among_ones :
    let process : Process := ⟨{}, List.replicate 513 0xFF⟩
    let arguments : List String := ["sh", "", "-c x", "b A=1", "c"]
    512 ≤ process.image.length ∧
    ∃ laid, process.withArguments arguments = .ok laid ∧
      ofPage? (laid.image.last 512) = some "sh  -c x b" := by
  intro process arguments
  have fullPage : 512 ≤ process.image.length := by decide +kernel
  obtain ⟨laid, accepted⟩ : ∃ laid, process.withArguments arguments = .ok laid := by
    have fits : (process.withArguments arguments).isOk = true := by decide +kernel
    cases outcome : process.withArguments arguments with
    | ok laid => exact ⟨laid, rfl⟩
    | error fault =>
      rw [outcome] at fits
      cases fits
  obtain ⟨-, visible, -⟩ := page_recovers_arguments process laid arguments fullPage accepted
  have command : commandBeforeVariable? arguments = some "sh  -c x b" := by decide +kernel
  exact ⟨fullPage, laid, accepted,
    (visible (by decide +kernel) (by decide +kernel)).trans command⟩

end CommandText

end SixthEdition
