/-
This file holds the scanner, which cuts a text into the tokens of JSON. It takes
exactly the spellings that JSON allows: in strings no raw control characters and
no half of a surrogate pair without its other half, in numerals no leading zero
and no sign but a minus. Negative zero is no integer.
-/

import SixthEdition.Json.Token.Basic

namespace SixthEdition.Json

def isBlank (char : Char) : Bool :=
  char == ' ' || char == '\t' || char == '\n' || char == '\r'

/-! ### Strings -/

/-- The number that four hexadecimal digits denote. -/
def codeUnit? (first second third fourth : Char) : Option Nat := do
  let first ← Numeral.digit? 16 first
  let second ← Numeral.digit? 16 second
  let third ← Numeral.digit? 16 third
  let fourth ← Numeral.digit? 16 fourth
  return ((first * 16 + second) * 16 + third) * 16 + fourth

def isHighSurrogate (unit : Nat) : Bool :=
  decide (0xD800 ≤ unit) && decide (unit < 0xDC00)

def isLowSurrogate (unit : Nat) : Bool :=
  decide (0xDC00 ≤ unit) && decide (unit < 0xE000)

/-- The character that two surrogates stand for together. -/
def surrogatePair (high low : Nat) : Char :=
  Char.ofNat (0x10000 + (high - 0xD800) * 0x400 + (low - 0xDC00))

/-- The second half of a pair, written as an escape. -/
def lowSurrogate? : List Char → Option (Nat × List Char)
  | '\\' :: 'u' :: first :: second :: third :: fourth :: rest =>
    match codeUnit? first second third fourth with
    | some unit => if isLowSurrogate unit then some (unit, rest) else none
    | none => none
  | _ => none

/-- The character behind the letter `u` of an escape. -/
def numericEscape? : List Char → Option (Char × List Char)
  | first :: second :: third :: fourth :: rest =>
    match codeUnit? first second third fourth with
    | none => none
    | some unit =>
      if isHighSurrogate unit then
        (lowSurrogate? rest).map fun (low, rest) => (surrogatePair unit low, rest)
      else if isLowSurrogate unit then none
      else some (Char.ofNat unit, rest)
  | _ => none

/-- The character behind a backslash. -/
def escape? : List Char → Option (Char × List Char)
  | [] => none
  | letter :: rest =>
    if letter = 'u' then numericEscape? rest
    else (shortEscapes.lookup letter).map (·, rest)

/-- The next character of a string and what follows it. -/
def character? : List Char → Option (Char × List Char)
  | [] => none
  | char :: rest =>
    if char = '\\' then escape? rest
    else if char.toNat < 32 then none
    else some (char, rest)

theorem length_lowSurrogate? {chars rest : List Char} {unit : Nat}
    (found : lowSurrogate? chars = some (unit, rest)) : rest.length < chars.length := by
  unfold lowSurrogate? at found
  split at found
  · split at found
    · split at found
      · cases found
        simp only [List.length_cons]
        omega
      · cases found
    · cases found
  · cases found

theorem length_numericEscape? {chars rest : List Char} {char : Char}
    (found : numericEscape? chars = some (char, rest)) : rest.length < chars.length := by
  unfold numericEscape? at found
  split at found
  · split at found
    · cases found
    · split at found
      · obtain ⟨⟨low, after⟩, lowFound, same⟩ := Option.map_eq_some_iff.mp found
        obtain ⟨_, rfl⟩ := Prod.mk.inj same
        have := length_lowSurrogate? lowFound
        simp only [List.length_cons]
        omega
      · split at found
        · cases found
        · cases found
          simp only [List.length_cons]
          omega
  · cases found

theorem length_escape? {chars rest : List Char} {char : Char}
    (found : escape? chars = some (char, rest)) : rest.length < chars.length := by
  unfold escape? at found
  split at found
  · cases found
  · split at found
    · exact Nat.lt_succ_of_lt (length_numericEscape? found)
    · obtain ⟨_, _, same⟩ := Option.map_eq_some_iff.mp found
      cases same
      exact Nat.lt_succ_self _

theorem length_character? {chars rest : List Char} {char : Char}
    (found : character? chars = some (char, rest)) : rest.length < chars.length := by
  unfold character? at found
  split at found
  · cases found
  · split at found
    · exact Nat.lt_succ_of_lt (length_escape? found)
    · split at found
      · cases found
      · cases found
        exact Nat.lt_succ_self _

/-- The characters up to the closing quote of a string, in reverse before those in `reversed`,
and what follows the quote. -/
def stringRest? (reversed : List Char) (chars : List Char) : Option (String × List Char) :=
  match chars with
  | '"' :: rest => some (String.ofList reversed.reverse, rest)
  | chars =>
    match _found : character? chars with
    | none => none
    | some (char, rest) => stringRest? (char :: reversed) rest
termination_by chars.length
decreasing_by exact length_character? _found

theorem length_stringRest? (reversed chars : List Char) {value : String} {rest : List Char}
    (found : stringRest? reversed chars = some (value, rest)) : rest.length < chars.length := by
  fun_induction stringRest? reversed chars with
  | case1 reversed after =>
    cases found
    simp
  | case2 => cases found
  | case3 reversed chars _ char after characterFound inductionHypothesis =>
    have := length_character? characterFound
    have := inductionHypothesis found
    omega

/-! ### Numerals -/

/-- Digits behind a point, with the point. Nothing where there is no point. -/
def fraction? : List Char → Option (List Char × List Char)
  | '.' :: rest =>
    let digits := rest.takeWhile Char.isDigit
    if digits.isEmpty then none else some ('.' :: digits, rest.dropWhile Char.isDigit)
  | chars => some ([], chars)

/-- An optional sign, plus or minus. -/
def sign : List Char → List Char × List Char
  | '+' :: rest => (['+'], rest)
  | '-' :: rest => (['-'], rest)
  | chars => ([], chars)

/-- Digits behind an exponent mark and an optional sign, with both. Nothing where there is no
mark. -/
def exponent? : List Char → Option (List Char × List Char)
  | [] => some ([], [])
  | mark :: rest =>
    if mark = 'e' ∨ mark = 'E' then
      let (sign, rest) := sign rest
      let digits := rest.takeWhile Char.isDigit
      if digits.isEmpty then none
      else some (mark :: sign ++ digits, rest.dropWhile Char.isDigit)
    else some ([], mark :: rest)

/-- The token of a numeral with its sign and parts. -/
def numeralToken (negative : Bool) (whole fraction exponent : List Char) : Token :=
  let value := Numeral.value whole
  if fraction.isEmpty ∧ exponent.isEmpty ∧ ! (negative ∧ value = 0) then
    .integer (if negative then -value else value)
  else .real ((if negative then ['-'] else []) ++ whole ++ fraction ++ exponent)

/-- The numeral behind an optional minus sign. -/
def unsignedNumeral? (negative : Bool) (chars : List Char) : Option (Token × List Char) :=
  let whole := chars.takeWhile Char.isDigit
  if whole.isEmpty ∨ (whole.head? = some '0' ∧ 1 < whole.length) then none
  else do
    let (fraction, rest) ← fraction? (chars.dropWhile Char.isDigit)
    let (exponent, rest) ← exponent? rest
    return (numeralToken negative whole fraction exponent, rest)

def numeral? : List Char → Option (Token × List Char)
  | '-' :: rest => unsignedNumeral? true rest
  | chars => unsignedNumeral? false chars

/-! ### Tokens -/

def punctuation : List (Char × Token) :=
  [('[', .openBracket), (']', .closeBracket), ('\x7b', .openBrace), ('\x7d', .closeBrace),
    (':', .colon), (',', .comma)]

def words : List (List Char × Token) :=
  [("null".toList, .null), ("true".toList, .bool true), ("false".toList, .bool false)]

/-- The token at the start of a text that starts with no blank, and what follows it. -/
def token? : List Char → Option (Token × List Char)
  | [] => none
  | char :: rest =>
    match punctuation.lookup char with
    | some token => some (token, rest)
    | none =>
      if char = '"' then
        (stringRest? [] rest).map fun (value, rest) => (.string value, rest)
      else
        match words.find? fun (word, _) => word.isPrefixOf (char :: rest) with
        | some (word, token) => some (token, (char :: rest).drop word.length)
        | none => numeral? (char :: rest)

/-! ### Each token takes at least one character -/

theorem length_dropWhile_le (keep : Char → Bool) (chars : List Char) :
    (chars.dropWhile keep).length ≤ chars.length :=
  (List.dropWhile_suffix keep).length_le

theorem length_fraction? {chars text rest : List Char}
    (found : fraction? chars = some (text, rest)) : rest.length ≤ chars.length := by
  unfold fraction? at found
  split at found
  · dsimp only at found
    split at found
    · cases found
    · cases found
      exact Nat.le_succ_of_le (length_dropWhile_le _ _)
  · cases found
    exact Nat.le_refl _

theorem length_sign (chars : List Char) : (sign chars).2.length ≤ chars.length := by
  unfold sign
  split
  · exact Nat.le_succ _
  · exact Nat.le_succ _
  · exact Nat.le_refl _

theorem length_exponent? {chars text rest : List Char}
    (found : exponent? chars = some (text, rest)) : rest.length ≤ chars.length := by
  unfold exponent? at found
  split at found
  · cases found
    exact Nat.le_refl _
  · next mark after =>
    split at found
    · dsimp only at found
      split at found
      · cases found
      · cases found
        have := length_dropWhile_le Char.isDigit (sign after).2
        have := length_sign after
        simp only [List.length_cons]
        omega
    · cases found
      exact Nat.le_refl _

theorem length_unsignedNumeral? {negative : Bool} {chars rest : List Char} {token : Token}
    (found : unsignedNumeral? negative chars = some (token, rest)) :
    rest.length < chars.length := by
  unfold unsignedNumeral? at found
  dsimp only at found
  split at found
  · cases found
  · next wholeFound =>
    obtain ⟨⟨fraction, afterFraction⟩, fractionFound, found⟩ := Option.bind_eq_some_iff.mp found
    obtain ⟨⟨exponent, afterExponent⟩, exponentFound, found⟩ := Option.bind_eq_some_iff.mp found
    obtain ⟨_, rfl⟩ := Prod.mk.inj (Option.some.inj found)
    have fractionLe : afterFraction.length ≤ (chars.dropWhile Char.isDigit).length :=
      length_fraction? fractionFound
    have exponentLe : afterExponent.length ≤ afterFraction.length :=
      length_exponent? exponentFound
    have parts := congrArg List.length
      (List.takeWhile_append_dropWhile (p := Char.isDigit) (l := chars))
    rw [List.length_append] at parts
    have : 0 < (chars.takeWhile Char.isDigit).length := by
      rw [List.length_pos_iff]
      intro empty
      exact wholeFound (Or.inl (by rw [empty]; rfl))
    show afterExponent.length < chars.length
    omega

theorem length_numeral? {chars rest : List Char} {token : Token}
    (found : numeral? chars = some (token, rest)) : rest.length < chars.length := by
  unfold numeral? at found
  split at found
  · exact Nat.lt_succ_of_lt (length_unsignedNumeral? found)
  · exact length_unsignedNumeral? found

theorem words_ne_nil {entry : List Char × Token} (member : entry ∈ words) :
    0 < entry.1.length := by
  simp only [words, List.mem_cons, List.not_mem_nil, or_false] at member
  rcases member with rfl | rfl | rfl <;> decide

theorem length_token? {chars rest : List Char} {token : Token}
    (found : token? chars = some (token, rest)) : rest.length < chars.length := by
  unfold token? at found
  split at found
  · cases found
  · split at found
    · cases found
      exact Nat.lt_succ_self _
    · split at found
      · obtain ⟨⟨value, after⟩, stringFound, same⟩ := Option.map_eq_some_iff.mp found
        cases same
        exact Nat.lt_succ_of_lt (length_stringRest? _ _ stringFound)
      · split at found
        · next wordFound =>
          obtain ⟨_, rfl⟩ := Prod.mk.inj (Option.some.inj found)
          have wordPos := words_ne_nil (List.mem_of_find?_eq_some wordFound)
          simp only [List.length_drop, List.length_cons] at wordPos ⊢
          omega
        · exact length_numeral? found

/-! ### Whole texts -/

/-- The tokens of a text, with blanks between them left out. -/
def scan? (chars : List Char) : Option (List Token) :=
  match chars with
  | [] => some []
  | char :: rest =>
    if isBlank char then scan? rest
    else
      match _found : token? (char :: rest) with
      | none => none
      | some (token, rest) => (scan? rest).map (token :: ·)
termination_by chars.length
decreasing_by
  · exact Nat.lt_succ_self _
  · exact length_token? _found

end SixthEdition.Json
