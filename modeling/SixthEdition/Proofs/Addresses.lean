/-
This file says how a kernel address may be typed, and proves that these texts
are taken for addresses and no others.

The first characters of a text choose the radix, and what stands behind them has
to be a numeral. They choose without a look at the rest: a text that starts with
a prefix is never read in another way, and neither is one with a zero in front.
So a text is refused where its one numeral is none or is too large.
-/

import SixthEdition.CommandLine.Address
import SixthEdition.Proofs.Numerals

namespace SixthEdition.CommandLine

open Numeral (IsNumeral StandsFor)

/-! ### The grammar -/

/-- How an address is typed: a text, the radix that its first characters choose, and what stands
behind them. -/
inductive AddressForm : List Char → Nat → List Char → Prop where
  | hexadecimal (rest : List Char) : AddressForm ('0' :: 'x' :: rest) 16 rest
  | octal (rest : List Char) : AddressForm ('0' :: 'o' :: rest) 8 rest
  | leadingZero {char : Char} (rest : List Char) (notHexadecimal : char ≠ 'x')
      (notOctal : char ≠ 'o') : AddressForm ('0' :: char :: rest) 8 (char :: rest)
  | decimal {text : List Char} (otherwise : ∀ char rest, text ≠ '0' :: char :: rest) :
      AddressForm text 10 text

/-- A text is the address of a place in kernel memory. -/
def IsAddress (text : String) (number : Nat) : Prop :=
  ∃ radix rest, AddressForm text.toList radix rest ∧ IsNumeral radix rest number ∧
    number < 2 ^ 64

/-- A text is taken for no address. The fault names the text. -/
def Refused (text : String) : Prop :=
  ∃ fault, parseAddress text = .error ⟨text, fault⟩

variable {text rest : List Char} {radix number : Nat}

theorem exists_addressForm (text : List Char) : ∃ radix rest, AddressForm text radix rest := by
  by_cases longer : ∃ char rest, text = '0' :: char :: rest
  · obtain ⟨char, rest, rfl⟩ := longer
    by_cases hexadecimal : char = 'x'
    · rw [hexadecimal]
      exact ⟨16, rest, .hexadecimal rest⟩
    · by_cases octal : char = 'o'
      · rw [octal]
        exact ⟨8, rest, .octal rest⟩
      · exact ⟨8, char :: rest, .leadingZero rest hexadecimal octal⟩
  · exact ⟨10, text, .decimal fun char rest same => longer ⟨char, rest, same⟩⟩

namespace AddressForm

theorem radix_le (form : AddressForm text radix rest) : radix ≤ 16 := by
  cases form <;> decide

theorem readAddress_eq (form : AddressForm text radix rest) :
    readAddress text = Numeral.read radix addressLimit rest := by
  cases form with
  | hexadecimal | octal => rfl
  | leadingZero rest notHexadecimal notOctal =>
    unfold readAddress
    split
    · next same => exact absurd (List.cons.inj (List.cons.inj same).2).1 notHexadecimal
    · next same => exact absurd (List.cons.inj (List.cons.inj same).2).1 notOctal
    · next same =>
      rw [(List.cons.inj same).2]
    · next other => exact absurd rfl (other _ _)
  | decimal otherwise =>
    unfold readAddress
    split
    · exact absurd rfl (otherwise _ _)
    · exact absurd rfl (otherwise _ _)
    · exact absurd rfl (otherwise _ _)
    · rfl

/-- The form of a text decides: nothing but the one numeral in it is looked at. -/
theorem parseAddress_eq_ok_iff {text : String} (form : AddressForm text.toList radix rest) :
    parseAddress text = .ok number ↔ IsNumeral radix rest number ∧ number < 2 ^ 64 := by
  have limit : 0 < addressLimit := by decide
  rw [parseAddress, form.readAddress_eq, show 2 ^ 64 = addressLimit from rfl,
    ← Numeral.read_eq_ok_iff form.radix_le limit]
  cases Numeral.read radix addressLimit rest with
  | ok address => simp only [Except.ok.injEq]
  | error fault => simp only [reduceCtorEq]

end AddressForm

/-- Whatever is not accepted is refused. -/
theorem refused_iff_ne_ok {text : String} :
    Refused text ↔ ∀ number, parseAddress text ≠ .ok number := by
  rw [Refused, parseAddress]
  cases readAddress text.toList with
  | ok address => simp
  | error fault => simp

theorem AddressForm.refused_iff {text : String} (form : AddressForm text.toList radix rest) :
    Refused text ↔ ∀ number, IsNumeral radix rest number → 2 ^ 64 ≤ number := by
  simp only [refused_iff_ne_ok, ne_eq, form.parseAddress_eq_ok_iff, not_and, Nat.not_lt]

theorem parseAddress_eq_ok_iff {text : String} :
    parseAddress text = .ok number ↔ IsAddress text number := by
  constructor
  · intro accepted
    obtain ⟨radix, rest, form⟩ := exists_addressForm text.toList
    exact ⟨radix, rest, form, form.parseAddress_eq_ok_iff.mp accepted⟩
  · rintro ⟨radix, rest, form, numeral⟩
    exact form.parseAddress_eq_ok_iff.mpr numeral

/-! ### What is refused -/

/-- The characters that choose the radix are in front of the rest. -/
theorem AddressForm.mem_rest {char : Char} (form : AddressForm text radix rest)
    (member : char ∈ text) : char ∈ ['0', 'x', 'o'] ∨ char ∈ rest := by
  cases form with
  | hexadecimal | octal | leadingZero =>
    simp only [List.mem_cons] at member ⊢
    tauto
  | decimal => exact .inr member

theorem refused_of_not_digit {text : String} {char : Char}
    (form : AddressForm text.toList radix rest) (member : char ∈ rest) (notPlus : char ≠ '+')
    (notDigit : ∀ digit, ¬ StandsFor radix char digit) : Refused text := by
  refine form.refused_iff.mpr fun number numeral => ?_
  rcases numeral.eq_plus_or_standsFor member with plus | ⟨digit, stands⟩
  · exact absurd plus notPlus
  · exact absurd stands (notDigit digit)

theorem refused_of_minus {text : String} (member : '-' ∈ text.toList) : Refused text := by
  obtain ⟨radix, rest, form⟩ := exists_addressForm text.toList
  have inRest : '-' ∈ rest := (form.mem_rest member).resolve_left (by decide)
  exact refused_of_not_digit form inRest (by decide) fun _ => Numeral.not_standsFor (by decide)

theorem refused_of_capital_prefix {text : String} {char : Char} (capital : char = 'X' ∨ char = 'O')
    (starts : text.toList = '0' :: char :: rest) : Refused text := by
  have form : AddressForm text.toList 8 (char :: rest) := by
    rw [starts]
    rcases capital with rfl | rfl <;> exact .leadingZero rest (by decide) (by decide)
  refine refused_of_not_digit form List.mem_cons_self ?_ fun _ => Numeral.not_standsFor ?_
  · rcases capital with rfl | rfl <;> decide
  · rcases capital with rfl | rfl <;> decide

/-! ### What is accepted -/

/-- Octal digits behind a zero are an address. -/
theorem parseAddress_of_leadingZero {text : String} {chars : List Char} (nonempty : chars ≠ [])
    (denotes : Numeral.Denotes 8 chars number) (starts : text.toList = '0' :: chars)
    (small : number < 2 ^ 64) : parseAddress text = .ok number := by
  obtain ⟨char, rest, rfl⟩ := List.exists_cons_of_ne_nil nonempty
  have numeral : IsNumeral 8 (char :: rest) number := ⟨_, nonempty, .inl rfl, denotes⟩
  have notPrefix (other : Char) (outside : other ∉ "0123456789abcdefABCDEF".toList) :
      char ≠ other := by
    rintro rfl
    exact denotes.not_mem outside List.mem_cons_self
  have form : AddressForm text.toList 8 (char :: rest) := by
    rw [starts]
    exact .leadingZero rest (notPrefix 'x' (by decide)) (notPrefix 'o' (by decide))
  exact form.parseAddress_eq_ok_iff.mpr ⟨numeral, small⟩

theorem addressForm_decimal (number : Nat) :
    AddressForm (Numeral.decimal number) 10 (Numeral.decimal number) := by
  refine .decimal fun char rest same => ?_
  have zero : number = 0 :=
    Numeral.eq_zero_of_head?_toDigits (by decide) (congrArg List.head? same)
  rw [zero] at same
  cases same

/-- A number below the limit is read back from each form in which it can be written. -/
theorem parseAddress_of_written (small : number < 2 ^ 64) :
    ∀ text ∈ [String.ofList (Numeral.decimal number),
        "0x" ++ String.ofList (Numeral.hexadecimal number),
        "0o" ++ String.ofList (Numeral.octal number), "0" ++ String.ofList (Numeral.octal number)],
      parseAddress text = .ok number := by
  have written {radix : Nat} (large : 1 < radix) (atMost : radix ≤ 16) {text : String}
      (form : AddressForm text.toList radix (Nat.toDigits radix number)) :
      parseAddress text = .ok number :=
    form.parseAddress_eq_ok_iff.mpr ⟨Numeral.isNumeral_toDigits large atMost number, small⟩
  simp only [List.forall_mem_cons, List.not_mem_nil, false_implies, implies_true, and_true]
  refine ⟨written (show 1 < 10 by decide) (by decide) ?_,
    written (show 1 < 16 by decide) (by decide) ?_,
    written (show 1 < 8 by decide) (by decide) ?_, ?_⟩
  · rw [String.toList_ofList]
    exact addressForm_decimal number
  · rw [String.toList_append, String.toList_ofList, String.toList_ofList]
    exact .hexadecimal _
  · rw [String.toList_append, String.toList_ofList, String.toList_ofList]
    exact .octal _
  · refine parseAddress_of_leadingZero Nat.toDigits_ne_nil
      (Numeral.denotes_toDigits (by decide) (by decide) number) ?_ small
    rw [String.toList_append, String.toList_ofList, String.toList_ofList]
    rfl

/-- A text is taken for an address exactly if it is a numeral in the radix that its first characters
choose, behind these, and its number has at most 64 bits. Every other text is refused: one with
nothing behind the prefix or the sign, with a character that is no digit of the radix, with a minus
sign or a capital prefix, or with too large a number. So each number of 64 bits is read back from
its decimal form, from its hexadecimal and octal form behind their prefixes, and from its octal form
behind a zero. -/
theorem parseAddress_accepts_grammar :
    (∀ text number, parseAddress text = .ok number ↔ IsAddress text number) ∧
    (∀ text, Refused text ↔ ∀ number, ¬ IsAddress text number) ∧
    (∀ text radix rest, AddressForm text.toList radix rest →
      rest = [] ∨ rest = ['+'] ∨
        (∃ char ∈ rest, char ≠ '+' ∧ ∀ digit, ¬ StandsFor radix char digit) ∨
        (∃ number, IsNumeral radix rest number ∧ 2 ^ 64 ≤ number) →
      Refused text) ∧
    (∀ text : String, '-' ∈ text.toList → Refused text) ∧
    (∀ (text : String) char rest, char = 'X' ∨ char = 'O' → text.toList = '0' :: char :: rest →
      Refused text) ∧
    ∀ number < 2 ^ 64,
      ∀ text ∈ [String.ofList (Numeral.decimal number),
          "0x" ++ String.ofList (Numeral.hexadecimal number),
          "0o" ++ String.ofList (Numeral.octal number),
          "0" ++ String.ofList (Numeral.octal number)],
        parseAddress text = .ok number := by
  refine ⟨fun text number => parseAddress_eq_ok_iff, ?_, ?_, fun _ => refused_of_minus,
    fun _ _ _ => refused_of_capital_prefix, fun _ => parseAddress_of_written⟩
  · intro text
    simp only [refused_iff_ne_ok, ne_eq, parseAddress_eq_ok_iff]
  · rintro text radix rest form (rfl | rfl | ⟨char, member, notPlus, notDigit⟩ | tooLarge)
    · exact form.refused_iff.mpr fun number numeral => absurd rfl numeral.ne_nil
    · refine form.refused_iff.mpr fun number numeral => ?_
      exact absurd rfl (Numeral.isNumeral_plus_iff.mp numeral).1
    · exact refused_of_not_digit form member notPlus notDigit
    · obtain ⟨number, numeral, large⟩ := tooLarge
      refine form.refused_iff.mpr fun other again => ?_
      rw [← numeral.unique form.radix_le again]
      exact large

/-- Signs, prefixes and leading zeros at the edge of what is accepted, and the largest number with
the one behind it. -/
theorem parseAddress_accepts_grammar_at_edges :
    parseAddress "0+7" = .ok 7 ∧ Refused "0x+" ∧ Refused "09" ∧ Refused "0-5" ∧ Refused "0X1f" ∧
    2 ^ 64 - 1 < 2 ^ 64 ∧ parseAddress "0xffffffffffffffff" = .ok (2 ^ 64 - 1) ∧
    Refused "0x10000000000000000" := by
  obtain ⟨accepts, -, refuses, minus, capital, written⟩ := parseAddress_accepts_grammar
  have largest : 2 ^ 64 - 1 < 2 ^ 64 := by decide
  have signed : IsAddress "0+7" 7 :=
    ⟨8, ['+', '7'], .leadingZero ['7'] (by decide) (by decide),
      ⟨['7'], by decide, .inr rfl, [7], .cons (by decide) .nil, rfl⟩, by decide⟩
  refine ⟨(accepts _ _).mpr signed, refuses _ _ _ (.hexadecimal ['+']) (.inr (.inl rfl)),
    refuses _ _ _ (.leadingZero [] (by decide) (by decide)) (.inr (.inr (.inl ?_))),
    minus _ (by decide), capital _ 'X' ['1', 'f'] (.inl rfl) rfl, largest,
    written _ largest _ ?_,
    refuses _ _ _ (.hexadecimal ('1' :: List.replicate 16 '0')) (.inr (.inr (.inr ?_)))⟩
  · have notOctal : Numeral.digit? 8 '9' = none := by decide
    exact ⟨'9', by decide, by decide, (Numeral.digit?_eq_none_iff (by decide)).mp notOctal⟩
  · exact List.mem_cons_of_mem _ List.mem_cons_self
  · have digits : Nat.toDigits 16 (2 ^ 64) = '1' :: List.replicate 16 '0' := by decide +kernel
    have numeral := Numeral.isNumeral_toDigits (show 1 < 16 by decide) (by decide) (2 ^ 64)
    rw [digits] at numeral
    exact ⟨2 ^ 64, numeral, Nat.le_refl _⟩

end SixthEdition.CommandLine
