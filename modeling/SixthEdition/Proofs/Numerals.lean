/-
This file says which texts are numerals and of which numbers, and proves that
reading accepts these and no others. The radix is at most sixteen, so that a
letter is never more than a hexadecimal digit.

Reading refuses a number as soon as its first digits are too large. That is the
same as refusing the whole number: further digits never make it smaller.
-/

import Mathlib.Data.List.Forall2
import Mathlib.Data.Nat.Digits.Defs
import SixthEdition.Numeral

namespace SixthEdition.Numeral

/-! ### Numerals and their numbers -/

/-- A character stands for a digit of a radix. The digits from ten on are letters, small or
capital. -/
def StandsFor (radix : Nat) (char : Char) (digit : Nat) : Prop :=
  digit < radix ∧
    ("0123456789abcdef".toList[digit]? = some char ∨ "0123456789ABCDEF".toList[digit]? = some char)

instance (radix : Nat) (char : Char) (digit : Nat) : Decidable (StandsFor radix char digit) :=
  inferInstanceAs (Decidable (_ ∧ _))

/-- Characters denote a number in a radix: each of them stands for a digit, and the number is the
value of the digits, of which the first counts most. -/
def Denotes (radix : Nat) (chars : List Char) (number : Nat) : Prop :=
  ∃ digits : List Nat,
    List.Forall₂ (StandsFor radix) chars digits ∧ Nat.ofDigits radix digits.reverse = number

/-- A text is a numeral of a number: an optional plus sign and at least one digit. -/
def IsNumeral (radix : Nat) (text : List Char) (number : Nat) : Prop :=
  ∃ chars, chars ≠ [] ∧ (text = chars ∨ text = '+' :: chars) ∧ Denotes radix chars number

variable {radix limit total number digit : Nat} {char : Char} {chars text : List Char}

/-! ### Digits -/

theorem toNat_lt_of_digit? (found : digit? radix char = some digit) : char.toNat < 128 := by
  have ascii (last : Char) (inside : char ≤ last) (small : last.toNat < 128) :
      char.toNat < 128 := Nat.lt_of_le_of_lt (Char.le_def.mp inside) small
  rw [digit?, Option.filter_eq_some_iff] at found
  obtain ⟨found, -⟩ := found
  split at found
  · next range => exact ascii '9' range.2 (by decide)
  · split at found
    · next range => exact ascii 'z' range.2 (by decide)
    · split at found
      · next range => exact ascii 'Z' range.2 (by decide)
      · cases found

theorem digit?_eq_some_iff_lt (small : radix ≤ 16) :
    digit? radix char = some digit ↔ digit < radix ∧ digit? 16 char = some digit := by
  simp only [digit?, Option.filter_eq_some_iff, decide_eq_true_eq]
  constructor
  · rintro ⟨found, inside⟩
    exact ⟨inside, found, Nat.lt_of_lt_of_le inside small⟩
  · rintro ⟨inside, found, -⟩
    exact ⟨found, inside⟩

theorem digit?_eq_some_iff (small : radix ≤ 16) :
    digit? radix char = some digit ↔ StandsFor radix char digit := by
  rw [digit?_eq_some_iff_lt small, StandsFor]
  refine and_congr_right fun inside => ⟨fun found => ?_, fun stands => ?_⟩
  · have table : ∀ code < 128, ∀ digit ∈ digit? 16 (Char.ofNat code),
        StandsFor 16 (Char.ofNat code) digit := by decide +kernel
    have stands := table char.toNat (toNat_lt_of_digit? found) digit
    rw [Char.ofNat_toNat] at stands
    exact (stands found).2
  · have listed {letters : List Char} (table : letters.map (digit? 16) = (List.range 16).map some)
        (here : letters[digit]? = some char) : digit? 16 char = some digit := by
      have same := congrArg (·[digit]?) table
      simp only [List.getElem?_map, here, Option.map_some,
        List.getElem?_range (Nat.lt_of_lt_of_le inside small)] at same
      exact Option.some.inj same
    exact stands.elim (listed (by decide +kernel)) (listed (by decide +kernel))

theorem digit?_eq_none_iff (small : radix ≤ 16) :
    digit? radix char = none ↔ ∀ digit, ¬ StandsFor radix char digit := by
  rw [Option.eq_none_iff_forall_not_mem]
  exact forall_congr' fun digit => not_congr (digit?_eq_some_iff small)

/-- No other character stands for a digit. -/
theorem not_standsFor (outside : char ∉ "0123456789abcdefABCDEF".toList) :
    ¬ StandsFor radix char digit := by
  rintro ⟨-, small | capital⟩
  · have within : "0123456789abcdef".toList ⊆ "0123456789abcdefABCDEF".toList := by decide
    exact outside (within (List.mem_of_getElem? small))
  · have within : "0123456789ABCDEF".toList ⊆ "0123456789abcdefABCDEF".toList := by decide
    exact outside (within (List.mem_of_getElem? capital))

theorem Denotes.exists_standsFor (denotes : Denotes radix chars number) (member : char ∈ chars) :
    ∃ digit, StandsFor radix char digit := by
  obtain ⟨digits, stand, -⟩ := denotes
  obtain ⟨place, bound, rfl⟩ := List.getElem_of_mem member
  exact ⟨_, stand.get bound (stand.length_eq ▸ bound)⟩

theorem Denotes.not_mem (denotes : Denotes radix chars number)
    (outside : char ∉ "0123456789abcdefABCDEF".toList) : char ∉ chars := by
  intro member
  obtain ⟨digit, stands⟩ := denotes.exists_standsFor member
  exact not_standsFor outside stands

/-! ### Reading -/

/-- The value that further digits make of the number in front of them. -/
def extended (radix total : Nat) (digits : List Nat) : Nat :=
  digits.foldl (fun total digit => total * radix + digit) total

theorem extended_zero (radix : Nat) (digits : List Nat) :
    extended radix 0 digits = Nat.ofDigits radix digits.reverse := by
  rw [Nat.ofDigits_eq_foldr, List.foldr_reverse, extended]
  congr
  funext total digit
  rw [Nat.cast_id, Nat.mul_comm, Nat.add_comm]

theorem le_extended (positive : 0 < radix) (total : Nat) (digits : List Nat) :
    total ≤ extended radix total digits := by
  induction digits generalizing total with
  | nil => exact Nat.le_refl total
  | cons digit rest inductionHypothesis =>
    have step : total ≤ total * radix + digit :=
      Nat.le_trans (Nat.le_mul_of_pos_right total positive) (Nat.le_add_right ..)
    exact Nat.le_trans step (inductionHypothesis _)

theorem readDigits_eq_ok_iff (small : radix ≤ 16) (within : total < limit) :
    readDigits radix limit total chars = .ok number ↔
      number < limit ∧ ∃ digits, List.Forall₂ (StandsFor radix) chars digits ∧
        extended radix total digits = number := by
  induction chars generalizing total with
  | nil =>
    simp only [readDigits, Except.ok.injEq, List.forall₂_nil_left_iff, exists_eq_left]
    constructor
    · rintro rfl
      exact ⟨within, rfl⟩
    · rintro ⟨-, value⟩
      exact value
  | cons char rest inductionHypothesis =>
    simp only [readDigits, List.forall₂_cons_left_iff]
    cases found : digit? radix char with
    | none =>
      have noDigit := (digit?_eq_none_iff small).mp found
      constructor
      · intro impossible
        cases impossible
      · rintro ⟨-, _, ⟨digit, others, stands, -, -⟩, -⟩
        exact absurd stands (noDigit digit)
    | some digit =>
      have stands := (digit?_eq_some_iff small).mp found
      have unique {other : Nat} (otherStands : StandsFor radix char other) : digit = other := by
        rw [← digit?_eq_some_iff small, found] at otherStands
        exact Option.some.inj otherStands
      by_cases next : total * radix + digit < limit
      · simp only [if_pos next, inductionHypothesis next]
        refine and_congr_right fun _ => ⟨?_, ?_⟩
        · rintro ⟨others, stand, value⟩
          exact ⟨_, ⟨digit, others, stands, stand, rfl⟩, value⟩
        · rintro ⟨_, ⟨other, others, otherStands, stand, rfl⟩, value⟩
          rw [← unique otherStands] at value
          exact ⟨others, stand, value⟩
      · simp only [if_neg next]
        constructor
        · intro impossible
          cases impossible
        · rintro ⟨within, _, ⟨other, others, otherStands, -, rfl⟩, value⟩
          rw [← unique otherStands] at value
          have grown : total * radix + digit ≤ number :=
            value ▸ le_extended (Nat.zero_lt_of_lt stands.1) _ others
          exact absurd (Nat.lt_of_le_of_lt grown within) next

theorem not_denotes_plus : ¬ Denotes radix ('+' :: chars) number :=
  fun denotes => denotes.not_mem (by decide) List.mem_cons_self

theorem isNumeral_plus_iff :
    IsNumeral radix ('+' :: chars) number ↔ chars ≠ [] ∧ Denotes radix chars number := by
  constructor
  · rintro ⟨others, nonempty, rfl | same, denotes⟩
    · exact absurd denotes not_denotes_plus
    · obtain rfl := (List.cons.inj same).2
      exact ⟨nonempty, denotes⟩
  · rintro ⟨nonempty, denotes⟩
    exact ⟨chars, nonempty, .inr rfl, denotes⟩

theorem isNumeral_iff_of_unsigned (unsigned : ∀ rest, text ≠ '+' :: rest) :
    IsNumeral radix text number ↔ text ≠ [] ∧ Denotes radix text number := by
  constructor
  · rintro ⟨others, nonempty, rfl | same, denotes⟩
    · exact ⟨nonempty, denotes⟩
    · exact absurd same (unsigned others)
  · rintro ⟨nonempty, denotes⟩
    exact ⟨text, nonempty, .inl rfl, denotes⟩

/-- Reading accepts the numerals of the numbers below the limit. -/
theorem read_eq_ok_iff (small : radix ≤ 16) (positive : 0 < limit) :
    read radix limit text = .ok number ↔ IsNumeral radix text number ∧ number < limit := by
  have digits (chars : List Char) : readDigits radix limit 0 chars = .ok number ↔
      Denotes radix chars number ∧ number < limit := by
    simp only [readDigits_eq_ok_iff small positive, extended_zero, Denotes, and_comm]
  unfold read
  split
  · simp [isNumeral_iff_of_unsigned]
  · simp [isNumeral_plus_iff]
  · next rest nonempty =>
    rw [digits, isNumeral_plus_iff, and_iff_right (fun empty => nonempty (by rw [empty]))]
  · next nonempty _ unsigned =>
    rw [digits, isNumeral_iff_of_unsigned unsigned, and_iff_right nonempty]

/-- A text is a numeral of one number at most. -/
theorem IsNumeral.unique (small : radix ≤ 16) {other : Nat}
    (numeral : IsNumeral radix text number) (again : IsNumeral radix text other) :
    number = other := by
  have below {value : Nat} (isNumeral : IsNumeral radix text value)
      (within : value ≤ number + other) : read radix (number + other + 1) text = .ok value :=
    (read_eq_ok_iff small (Nat.succ_pos _)).mpr ⟨isNumeral, Nat.lt_succ_of_le within⟩
  have same := (below numeral (Nat.le_add_right ..)).symm.trans (below again (Nat.le_add_left ..))
  exact Except.ok.inj same

theorem IsNumeral.ne_nil (numeral : IsNumeral radix text number) : text ≠ [] := by
  obtain ⟨chars, nonempty, rfl | rfl, -⟩ := numeral
  · exact nonempty
  · exact List.cons_ne_nil _ _

/-- Behind the plus sign a numeral has digits only. -/
theorem IsNumeral.eq_plus_or_standsFor (numeral : IsNumeral radix text number)
    (member : char ∈ text) : char = '+' ∨ ∃ digit, StandsFor radix char digit := by
  obtain ⟨chars, -, rfl | rfl, denotes⟩ := numeral
  · exact .inr (denotes.exists_standsFor member)
  · exact (List.mem_cons.mp member).imp_right denotes.exists_standsFor

/-! ### Writing -/

theorem standsFor_digitChar (inside : digit < radix) (small : radix ≤ 16) :
    StandsFor radix digit.digitChar digit := by
  have table : ∀ digit < 16, "0123456789abcdef".toList[digit]? = some digit.digitChar := by decide
  exact ⟨inside, .inl (table digit (Nat.lt_of_lt_of_le inside small))⟩

theorem Denotes.concat (denotes : Denotes radix chars total) (stands : StandsFor radix char digit) :
    Denotes radix (chars ++ [char]) (total * radix + digit) := by
  obtain ⟨digits, stand, value⟩ := denotes
  refine ⟨digits ++ [digit], List.rel_append stand (.cons stands .nil), ?_⟩
  rw [List.reverse_append, List.reverse_singleton, List.singleton_append, Nat.ofDigits_cons, value,
    Nat.mul_comm, Nat.add_comm]

/-- Zeros in front change nothing. -/
theorem Denotes.zeros (positive : 0 < radix) (count : Nat) (denotes : Denotes radix chars number) :
    Denotes radix (List.replicate count '0' ++ chars) number := by
  induction count with
  | zero => exact denotes
  | succ count inductionHypothesis =>
    obtain ⟨digits, stand, value⟩ := inductionHypothesis
    refine ⟨0 :: digits, .cons ⟨positive, .inl rfl⟩ stand, ?_⟩
    rw [Nat.ofDigits_reverse_cons, value, Nat.mul_zero, Nat.add_zero]

theorem denotes_toDigits (large : 1 < radix) (small : radix ≤ 16) (number : Nat) :
    Denotes radix (Nat.toDigits radix number) number := by
  induction number using Nat.strongRecOn with
  | ind number inductionHypothesis =>
    by_cases single : number < radix
    · rw [Nat.toDigits_of_lt_base single]
      refine ⟨[number], .cons (standsFor_digitChar single small) .nil, ?_⟩
      rw [List.reverse_singleton, Nat.ofDigits_singleton]
    · have several : radix ≤ number := Nat.le_of_not_lt single
      have shorter := Nat.div_lt_self (Nat.lt_of_lt_of_le (Nat.zero_lt_of_lt large) several) large
      have last := standsFor_digitChar (Nat.mod_lt number (Nat.zero_lt_of_lt large)) small
      have denotes := (inductionHypothesis _ shorter).concat last
      rw [Nat.mul_comm, Nat.div_add_mod] at denotes
      rw [Nat.toDigits_of_base_le large several]
      exact denotes

theorem isNumeral_toDigits (large : 1 < radix) (small : radix ≤ 16) (number : Nat) :
    IsNumeral radix (Nat.toDigits radix number) number :=
  ⟨_, Nat.toDigits_ne_nil, .inl rfl, denotes_toDigits large small number⟩

theorem denotes_padLeft (large : 1 < radix) (small : radix ≤ 16) (width number : Nat) :
    Denotes radix (padLeft width '0' (Nat.toDigits radix number)) number :=
  (denotes_toDigits large small number).zeros (Nat.zero_lt_of_lt large) _

/-- Only the numeral of zero starts with a zero. -/
theorem eq_zero_of_head?_toDigits (large : 1 < radix)
    (zero : (Nat.toDigits radix number).head? = some '0') : number = 0 := by
  induction number using Nat.strongRecOn with
  | ind number inductionHypothesis =>
    rw [Nat.toDigits_eq_if large] at zero
    split at zero
    · exact Nat.digitChar_eq_zero.mp (Option.some.inj zero)
    · next several =>
      rw [List.head?_append_of_ne_nil _ Nat.toDigits_ne_nil] at zero
      have shorter : number / radix < number := Nat.div_lt_self (by omega) large
      have nothing := inductionHypothesis (number / radix) shorter zero
      exact absurd ((Nat.div_eq_zero_iff.mp nothing).resolve_left (by omega)) several

end SixthEdition.Numeral
