/-
This file holds the numerals of the program's text: how a natural number is
written in a radix, how a field is padded to a width, and how an unsigned
numeral is read back. Reading stops at the first character that is at fault, so
of two faults in one numeral the leftmost is the one reported. Where a numeral
may have any number of digits, its value is put together from halves, and the
file shows that this is the value read from left to right.
-/

namespace SixthEdition.Numeral

/-! ### Writing -/

def decimal (number : Nat) : List Char :=
  Nat.toDigits 10 number

def octal (number : Nat) : List Char :=
  Nat.toDigits 8 number

def hexadecimal (number : Nat) : List Char :=
  Nat.toDigits 16 number

def signed (number : Int) : List Char :=
  if number < 0 then '-' :: decimal number.natAbs else decimal number.natAbs

/-- A field flush right: never cut, only filled up to the width. -/
def padLeft (width : Nat) (filler : Char) (text : List Char) : List Char :=
  List.replicate (width - text.length) filler ++ text

/-- A field flush left: never cut, only filled up to the width. -/
def padRight (width : Nat) (filler : Char) (text : List Char) : List Char :=
  text ++ List.replicate (width - text.length) filler

theorem length_padLeft (width : Nat) (filler : Char) (text : List Char) :
    (padLeft width filler text).length = max width text.length := by
  simp only [padLeft, List.length_append, List.length_replicate]
  omega

theorem length_padRight (width : Nat) (filler : Char) (text : List Char) :
    (padRight width filler text).length = max width text.length := by
  simp only [padRight, List.length_append, List.length_replicate]
  omega

/-! ### Reading -/

inductive Fault where
  | empty
  | badDigit
  | tooLarge
  deriving DecidableEq

def Fault.message : Fault → String
  | .empty => "cannot parse integer from empty string"
  | .badDigit => "invalid digit found in string"
  | .tooLarge => "number too large to fit in target type"

/-- The value of an ASCII digit or letter, if it is a digit of the radix. -/
def digit? (radix : Nat) (char : Char) : Option Nat :=
  let value? :=
    if '0' ≤ char ∧ char ≤ '9' then some (char.toNat - '0'.toNat)
    else if 'a' ≤ char ∧ char ≤ 'z' then some (char.toNat - 'a'.toNat + 10)
    else if 'A' ≤ char ∧ char ≤ 'Z' then some (char.toNat - 'A'.toNat + 10)
    else none
  value?.filter (· < radix)

/-- Reads on from the digits seen so far, whose value is `total`. The number has to stay below
the limit after each digit. -/
def readDigits (radix limit : Nat) : Nat → List Char → Except Fault Nat
  | total, [] => .ok total
  | total, char :: rest =>
    match digit? radix char with
    | none => .error .badDigit
    | some digit =>
      let next := total * radix + digit
      if next < limit then readDigits radix limit next rest else .error .tooLarge

/-- An optional plus sign and at least one digit, denoting a number below the limit. -/
def read (radix limit : Nat) : List Char → Except Fault Nat
  | [] => .error .empty
  | ['+'] => .error .badDigit
  | '+' :: digits => readDigits radix limit 0 digits
  | digits => readDigits radix limit 0 digits

/-! ### Values of any size -/

/-- The value of decimal digits, put together from the values of two halves as many times over as
`depth` says. -/
def valueByHalves : Nat → List Char → Nat
  | 0, digits => Nat.ofDigitChars 10 digits 0
  | depth + 1, digits =>
    let half := digits.length / 2
    Nat.pow 10 (digits.length - half) * valueByHalves depth (digits.take half) +
      valueByHalves depth (digits.drop half)

/-- The value of decimal digits. A numeral is halved until its parts are short, so that even a very
long one is read in the time of a few multiplications. -/
def value (digits : List Char) : Nat :=
  valueByHalves (digits.length / 16).log2 digits

theorem valueByHalves_eq (depth : Nat) (digits : List Char) :
    valueByHalves depth digits = Nat.ofDigitChars 10 digits 0 := by
  induction depth generalizing digits with
  | zero => rfl
  | succ depth inductionHypothesis =>
    have parts := (Nat.ofDigitChars_append (b := 10) (l := digits.take (digits.length / 2))
      (m := digits.drop (digits.length / 2)) 0).trans Nat.ofDigitChars_eq_ofDigitChars_zero
    rw [List.take_append_drop, List.length_drop] at parts
    rw [parts, valueByHalves, Nat.pow_eq, inductionHypothesis, inductionHypothesis]

/-- Halving changes nothing: the value is the one that the digits have from left to right. -/
theorem value_eq (digits : List Char) : value digits = Nat.ofDigitChars 10 digits 0 :=
  valueByHalves_eq _ digits

end SixthEdition.Numeral
