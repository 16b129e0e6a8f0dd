/-
This file holds what an environment variable does to a command line. Arguments
and variables lie one behind the other, and nothing but the equals sign in the
first variable tells where the arguments end. So a command line ends in front of
its first word with an equals sign in it, wherever in the word that sign stands
and whether or not the word is an argument.
-/

import Mathlib.Data.List.TakeWhile
import SixthEdition.CommandText

namespace SixthEdition.CommandText

/-- The text in front of its first word with an equals sign in it. A word is what stands between two
spaces, and may be empty. -/
def beforeVariable (text : List Char) : List Char :=
  [' '].intercalate ((text.splitOn ' ').takeWhile fun word => '=' ∉ word)

/-- The characters of a word are characters of its text. -/
theorem mem_of_mem_splitOn {text word : List Char} {character : Char}
    (member : word ∈ text.splitOn ' ') (inside : character ∈ word) : character ∈ text := by
  induction text generalizing word with
  | nil =>
    rw [List.splitOn_nil] at member
    exact List.mem_singleton.mp member ▸ inside
  | cons first rest inductionHypothesis =>
    rw [List.splitOn_cons_eq_if_modifyHead] at member
    split at member
    case isTrue =>
      rcases List.mem_cons.mp member with rfl | later
      · cases inside
      · exact List.mem_cons_of_mem first (inductionHypothesis later inside)
    case isFalse =>
      obtain ⟨head, words, split⟩ := List.exists_cons_of_ne_nil (List.splitOn_ne_nil ' ' rest)
      rw [split, List.modifyHead_cons] at member
      rw [split] at inductionHypothesis
      rcases List.mem_cons.mp member with rfl | later
      · rcases List.mem_cons.mp inside with rfl | inHead
        · exact List.mem_cons_self
        · exact List.mem_cons_of_mem first (inductionHypothesis List.mem_cons_self inHead)
      · exact List.mem_cons_of_mem first
          (inductionHypothesis (List.mem_cons_of_mem head later) inside)

/-- A word of a text without an equals sign has none either. -/
theorem noEquals_of_mem_splitOn {text : List Char} (noEquals : '=' ∉ text) :
    ∀ word ∈ text.splitOn ' ', decide ('=' ∉ word) = true :=
  fun _ member => decide_eq_true fun inside => noEquals (mem_of_mem_splitOn member inside)

theorem beforeVariable_of_not_mem {text : List Char} (noEquals : '=' ∉ text) :
    beforeVariable text = text := by
  rw [beforeVariable, List.takeWhile_eq_self_iff.mpr (noEquals_of_mem_splitOn noEquals),
    List.intercalate_splitOn]

/-- Where an equals sign comes before any space, the first word has it. -/
theorem takeWhile_splitOn_eq_nil {start : List Char} (noSpace : ' ' ∉ start) (rest : List Char) :
    ((start ++ '=' :: rest).splitOn ' ').takeWhile (fun word => '=' ∉ word) = [] := by
  obtain ⟨word, words, split, equals⟩ : ∃ word words,
      (start ++ '=' :: rest).splitOn ' ' = word :: words ∧ '=' ∈ word := by
    by_cases space : ' ' ∈ rest
    · obtain ⟨between, later, rfl, noSpaceBetween⟩ := List.eq_append_cons_of_mem space
      have wordNoSpace : ' ' ∉ start ++ '=' :: between := by
        simp only [List.mem_append, List.mem_cons, not_or]
        exact ⟨noSpace, by decide, noSpaceBetween⟩
      refine ⟨start ++ '=' :: between, later.splitOn ' ', ?_, ?_⟩
      · rw [← List.cons_append, ← List.append_assoc,
          List.splitOn_append_cons_self_of_not_mem wordNoSpace]
      · exact List.mem_append_right start List.mem_cons_self
    · refine ⟨start ++ '=' :: rest, [], List.splitOn_eq_singleton ?_, ?_⟩
      · simp only [List.mem_append, List.mem_cons, not_or]
        exact ⟨noSpace, by decide, space⟩
      · exact List.mem_append_right start List.mem_cons_self
  rw [split, List.takeWhile_cons_of_neg]
  exact fun plain => of_decide_eq_true plain equals

/-- In front of the word in which the first equals sign stands is all that comes before that sign,
without its last word. -/
theorem beforeVariable_append_cons {before : List Char} (noEquals : '=' ∉ before)
    (after : List Char) :
    beforeVariable (before ++ '=' :: after) = (dropLastWord before.reverse).reverse := by
  by_cases space : ' ' ∈ before
  · obtain ⟨lastReversed, earlierReversed, reversed, noSpace⟩ :=
      List.eq_append_cons_of_mem (List.mem_reverse.mpr space)
    have parts : before = earlierReversed.reverse ++ ' ' :: lastReversed.reverse := by
      rw [← List.reverse_reverse before, reversed, List.reverse_append, List.reverse_cons,
        List.append_assoc, List.singleton_append]
    have earlierNoEquals : '=' ∉ earlierReversed.reverse := by
      rw [parts] at noEquals
      exact fun inside => noEquals (List.mem_append_left _ inside)
    have lastNoSpace : ' ' ∉ lastReversed.reverse := mt List.mem_reverse.mp noSpace
    have notSpace : ∀ character ∈ lastReversed, decide (character ≠ ' ') = true :=
      fun character member => decide_eq_true (ne_of_mem_of_not_mem member noSpace)
    have dropped : dropLastWord before.reverse = earlierReversed := by
      rw [reversed, dropLastWord, List.dropWhile_append_of_pos notSpace]
      rfl
    rw [dropped, parts, beforeVariable, List.append_assoc, List.cons_append,
      List.splitOn_append_cons_self,
      List.takeWhile_append_of_pos (noEquals_of_mem_splitOn earlierNoEquals),
      takeWhile_splitOn_eq_nil lastNoSpace, List.append_nil, List.intercalate_splitOn]
  · have notSpace : ∀ character ∈ before.reverse, decide (character ≠ ' ') = true :=
      fun character member =>
        decide_eq_true (ne_of_mem_of_not_mem (List.mem_reverse.mp member) space)
    rw [beforeVariable, takeWhile_splitOn_eq_nil space, dropLastWord,
      List.dropWhile_eq_nil_iff.mpr notSpace]
    rfl

example : beforeVariable "sh -c  A=1 B".toList = "sh -c ".toList := by decide +kernel

end SixthEdition.CommandText
