/-
This file says which texts spell which tokens of JSON, and proves that the
scanner gets the tokens back from each such text.

A character of a string may be written as it is or by an escape, a numeral may
be any that JSON allows, and blanks may stand wherever two tokens meet and at
both ends. The scanner takes as many characters for a token as it can. That is
of account for numerals alone: what follows a numeral must not carry it on, and
nothing does that can follow one in a value. All other tokens show by themselves
where they end.
-/

import Mathlib.Data.List.Chain
import SixthEdition.Json.Token.Scanner
import SixthEdition.Json.Writer

namespace SixthEdition.Json

/-! ### Spellings of strings -/

/-- A text that stands for a character inside a string. -/
inductive SpellsCharacter : Char → List Char → Prop where
  | plain {char : Char} (notQuote : char ≠ '"') (notBackslash : char ≠ '\\')
      (visible : 32 ≤ char.toNat) : SpellsCharacter char [char]
  | short {letter char : Char} (entry : (letter, char) ∈ shortEscapes) :
      SpellsCharacter char ['\\', letter]
  | numeric {first second third fourth : Char} {unit : Nat}
      (denotes : codeUnit? first second third fourth = some unit)
      (notHigh : isHighSurrogate unit = false) (notLow : isLowSurrogate unit = false) :
      SpellsCharacter (Char.ofNat unit) ['\\', 'u', first, second, third, fourth]
  | pair {first second third fourth fifth sixth seventh eighth : Char} {high low : Nat}
      (denotesHigh : codeUnit? first second third fourth = some high)
      (isHigh : isHighSurrogate high = true)
      (denotesLow : codeUnit? fifth sixth seventh eighth = some low)
      (isLow : isLowSurrogate low = true) :
      SpellsCharacter (surrogatePair high low)
        ['\\', 'u', first, second, third, fourth, '\\', 'u', fifth, sixth, seventh, eighth]

/-- A text that stands for some characters inside a string. -/
inductive SpellsCharacters : List Char → List Char → Prop where
  | nil : SpellsCharacters [] []
  | cons {char : Char} {chars text rest : List Char} (first : SpellsCharacter char text)
      (others : SpellsCharacters chars rest) : SpellsCharacters (char :: chars) (text ++ rest)

/-! ### Spellings of numerals -/

/-- At least one decimal digit. -/
def IsDigits (text : List Char) : Prop :=
  text ≠ [] ∧ ∀ char ∈ text, char.isDigit = true

/-- The digits of a whole number, without a leading zero. -/
structure IsWhole (text : List Char) : Prop where
  digits : IsDigits text
  canonical : text.head? = some '0' → text.length = 1

/-- A point with digits behind it, or nothing. -/
inductive IsFraction : List Char → Prop where
  | none : IsFraction []
  | some {digits : List Char} (isDigits : IsDigits digits) : IsFraction ('.' :: digits)

/-- A mark with a sign or none and digits behind it, or nothing. -/
inductive IsExponent : List Char → Prop where
  | none : IsExponent []
  | some {mark : Char} {sign digits : List Char} (isMark : mark = 'e' ∨ mark = 'E')
      (isSign : sign = [] ∨ sign = ['+'] ∨ sign = ['-']) (isDigits : IsDigits digits) :
      IsExponent (mark :: (sign ++ digits))

/-! ### Spellings of tokens -/

/-- A text that stands for a token. -/
inductive Token.SpelledBy : Token → List Char → Prop where
  | punctuation {char : Char} {token : Token} (entry : (char, token) ∈ punctuation) :
      SpelledBy token [char]
  | word {word : List Char} {token : Token} (entry : (word, token) ∈ words) : SpelledBy token word
  | string {chars text : List Char} (spelled : SpellsCharacters chars text) :
      SpelledBy (.string (String.ofList chars)) ('"' :: (text ++ ['"']))
  | numeral (negative : Bool) {whole fraction exponent : List Char} (isWhole : IsWhole whole)
      (isFraction : IsFraction fraction) (isExponent : IsExponent exponent) :
      SpelledBy (numeralToken negative whole fraction exponent)
        ((if negative then ['-'] else []) ++ (whole ++ (fraction ++ exponent)))

/-- A text that is made up of blanks. -/
def IsBlank (text : List Char) : Prop :=
  ∀ char ∈ text, isBlank char = true

instance (text : List Char) : Decidable (IsBlank text) :=
  List.decidableBAll (isBlank · = true) text

/-- A text in which tokens stand in order, with any blanks before, between and behind them. -/
inductive Written : List Token → List Char → Prop where
  | nil {blanks : List Char} (isBlank : IsBlank blanks) : Written [] blanks
  | cons {token : Token} {tokens : List Token} {blanks text rest : List Char}
      (isBlank : IsBlank blanks) (spelled : token.SpelledBy text) (others : Written tokens rest) :
      Written (token :: tokens) (blanks ++ (text ++ rest))

/-! ### Strings -/

theorem character?_of_spells {char : Char} {text : List Char} (spelled : SpellsCharacter char text)
    (rest : List Char) : character? (text ++ rest) = some (char, rest) := by
  cases spelled with
  | plain notQuote notBackslash visible =>
    show (if char = '\\' then _ else if char.toNat < 32 then _ else _) = _
    rw [if_neg notBackslash, if_neg (Nat.not_lt.mpr visible)]
    rfl
  | short entry =>
    simp only [shortEscapes, List.mem_cons, Prod.mk.injEq, List.not_mem_nil, or_false] at entry
    rcases entry with ⟨rfl, rfl⟩ | ⟨rfl, rfl⟩ | ⟨rfl, rfl⟩ | ⟨rfl, rfl⟩ | ⟨rfl, rfl⟩ | ⟨rfl, rfl⟩ |
      ⟨rfl, rfl⟩ | ⟨rfl, rfl⟩ <;> rfl
  | @numeric first second third fourth unit denotes notHigh notLow =>
    show numericEscape? (first :: second :: third :: fourth :: rest) = _
    simp only [numericEscape?, denotes, notHigh, notLow]
    rfl
  | @pair first second third fourth fifth sixth seventh eighth high low denotesHigh isHigh
      denotesLow isLow =>
    show numericEscape? (first :: second :: third :: fourth :: '\\' :: 'u' :: fifth :: sixth ::
      seventh :: eighth :: rest) = _
    simp only [numericEscape?, lowSurrogate?, denotesHigh, isHigh, denotesLow, isLow]
    rfl

theorem head?_of_spells {char : Char} {text : List Char} (spelled : SpellsCharacter char text)
    (rest : List Char) : (text ++ rest).head? ≠ some '"' := by
  cases spelled with
  | plain notQuote _ _ => exact fun quote => notQuote (Option.some.inj quote)
  | _ => exact fun quote => absurd (Option.some.inj quote) (by decide)

theorem stringRest?_of_character? {chars rest : List Char} {char : Char} (reversed : List Char)
    (notQuote : chars.head? ≠ some '"') (found : character? chars = some (char, rest)) :
    stringRest? reversed chars = stringRest? (char :: reversed) rest := by
  rw [stringRest?.eq_def]
  split
  · exact absurd rfl notQuote
  · split
    · next missed =>
      rw [found] at missed
      cases missed
    · next other =>
      rw [found] at other
      cases other
      rfl

theorem stringRest?_of_spells {chars text : List Char} (spelled : SpellsCharacters chars text)
    (reversed rest : List Char) :
    stringRest? reversed (text ++ '"' :: rest) =
      some (String.ofList (reversed.reverse ++ chars), rest) := by
  induction spelled generalizing reversed with
  | nil =>
    rw [List.nil_append, stringRest?, List.append_nil]
  | cons first others inductionHypothesis =>
    rw [List.append_assoc,
      stringRest?_of_character? reversed (head?_of_spells first _) (character?_of_spells first _),
      inductionHypothesis, List.reverse_cons, List.append_assoc, List.singleton_append]

/-! ### Numerals -/

/-- A text that does not carry a numeral on. -/
def EndsNumeral (rest : List Char) : Prop :=
  ∀ char ∈ rest.head?, char.isDigit = false ∧ char ≠ '.' ∧ char ≠ 'e' ∧ char ≠ 'E'

theorem span_digits {digits rest : List Char} (isDigits : ∀ char ∈ digits, char.isDigit = true)
    (stops : ∀ char ∈ rest.head?, char.isDigit = false) :
    (digits ++ rest).takeWhile Char.isDigit = digits ∧
      (digits ++ rest).dropWhile Char.isDigit = rest := by
  rw [List.takeWhile_append_of_pos isDigits, List.dropWhile_append_of_pos isDigits]
  cases rest with
  | nil => exact ⟨List.append_nil digits, rfl⟩
  | cons char others =>
    have stop : ¬ char.isDigit = true := Bool.eq_false_iff.mp (stops char rfl)
    rw [List.takeWhile_cons_of_neg stop, List.dropWhile_cons_of_neg stop]
    exact ⟨List.append_nil digits, rfl⟩

theorem EndsNumeral.notDigit {rest : List Char} (ends : EndsNumeral rest) :
    ∀ char ∈ rest.head?, char.isDigit = false :=
  fun char first => (ends char first).1

theorem IsDigits.isEmpty_eq {digits : List Char} (isDigits : IsDigits digits) :
    digits.isEmpty = false :=
  List.isEmpty_eq_false_iff.mpr isDigits.1

/-- Behind the digits before an exponent there is neither a digit nor a point. -/
theorem IsExponent.head?_append {exponent rest : List Char} (isExponent : IsExponent exponent)
    (ends : EndsNumeral rest) :
    ∀ char ∈ (exponent ++ rest).head?, char.isDigit = false ∧ char ≠ '.' := by
  cases isExponent with
  | none => exact fun char first => ⟨(ends char first).1, (ends char first).2.1⟩
  | some isMark _ _ =>
    rintro char first
    obtain rfl := Option.some.inj first
    rcases isMark with rfl | rfl <;> decide

theorem IsFraction.head?_append {fraction rest : List Char} (isFraction : IsFraction fraction)
    (stops : ∀ char ∈ rest.head?, char.isDigit = false) :
    ∀ char ∈ (fraction ++ rest).head?, char.isDigit = false := by
  cases isFraction with
  | none => exact stops
  | some _ =>
    rintro char first
    obtain rfl := Option.some.inj first
    decide

theorem fraction?_append {fraction rest : List Char} (isFraction : IsFraction fraction)
    (stops : ∀ char ∈ rest.head?, char.isDigit = false ∧ char ≠ '.') :
    fraction? (fraction ++ rest) = some (fraction, rest) := by
  cases isFraction with
  | none =>
    rw [List.nil_append, fraction?.eq_def]
    split
    · exact absurd rfl (stops '.' rfl).2
    · rfl
  | @some digits isDigits =>
    obtain ⟨taken, left⟩ := span_digits isDigits.2 fun char first => (stops char first).1
    rw [List.cons_append, fraction?, taken, left, isDigits.isEmpty_eq]
    rfl

theorem sign_append {text digits rest : List Char}
    (isSign : text = [] ∨ text = ['+'] ∨ text = ['-']) (isDigits : IsDigits digits) :
    sign (text ++ (digits ++ rest)) = (text, digits ++ rest) := by
  rcases isSign with rfl | rfl | rfl
  · obtain ⟨notEmpty, all⟩ := isDigits
    cases digits with
    | nil => exact absurd rfl notEmpty
    | cons digit others =>
      have isDigit := all digit List.mem_cons_self
      rw [List.nil_append, List.cons_append, sign.eq_def]
      split
      · next same =>
        obtain ⟨rfl, -⟩ := List.cons.inj same
        exact absurd isDigit (by decide)
      · next same =>
        obtain ⟨rfl, -⟩ := List.cons.inj same
        exact absurd isDigit (by decide)
      · rfl
  · rfl
  · rfl

theorem exponent?_append {exponent rest : List Char} (isExponent : IsExponent exponent)
    (ends : EndsNumeral rest) : exponent? (exponent ++ rest) = some (exponent, rest) := by
  cases isExponent with
  | none =>
    cases rest with
    | nil => rfl
    | cons char others =>
      obtain ⟨-, -, notSmall, notLarge⟩ := ends char rfl
      rw [List.nil_append, exponent?, if_neg fun mark => mark.elim notSmall notLarge]
  | @some mark text digits isMark isSign isDigits =>
    obtain ⟨taken, left⟩ := span_digits isDigits.2 ends.notDigit
    rw [List.cons_append, List.append_assoc, exponent?, if_pos isMark,
      sign_append isSign isDigits]
    dsimp only
    rw [taken, left, isDigits.isEmpty_eq]
    rfl

theorem unsignedNumeral?_append (negative : Bool) {whole fraction exponent rest : List Char}
    (isWhole : IsWhole whole) (isFraction : IsFraction fraction)
    (isExponent : IsExponent exponent) (ends : EndsNumeral rest) :
    unsignedNumeral? negative (whole ++ (fraction ++ (exponent ++ rest))) =
      some (numeralToken negative whole fraction exponent, rest) := by
  have behindFraction := isExponent.head?_append ends
  have behindWhole := isFraction.head?_append fun char first => (behindFraction char first).1
  obtain ⟨taken, left⟩ := span_digits isWhole.digits.2 behindWhole
  have canonical : ¬ (whole.isEmpty = true ∨ whole.head? = some '0' ∧ 1 < whole.length) := by
    rw [isWhole.digits.isEmpty_eq]
    rintro (empty | ⟨zero, long⟩)
    · exact Bool.false_ne_true empty
    · exact Nat.ne_of_gt long (isWhole.canonical zero)
  rw [unsignedNumeral?, taken, left, if_neg canonical, fraction?_append isFraction behindFraction,
    Option.bind_eq_bind, Option.bind_some]
  dsimp only
  rw [exponent?_append isExponent ends]
  rfl

/-! ### Tokens -/

theorem mem_words {word : List Char} {token : Token} (entry : (word, token) ∈ words) :
    (word = "null".toList ∧ token = .null) ∨ (word = "true".toList ∧ token = .bool true) ∨
      (word = "false".toList ∧ token = .bool false) := by
  simpa only [words, List.mem_cons, Prod.mk.injEq, List.not_mem_nil, or_false] using entry

def Token.isNumeral : Token → Bool
  | .integer _ | .real _ => true
  | _ => false

theorem isNumeral_numeralToken (negative : Bool) (whole fraction exponent : List Char) :
    (numeralToken negative whole fraction exponent).isNumeral = true := by
  rw [numeralToken]
  split <;> rfl

/-- A character with which a numeral starts, and no other token. -/
def StartsNumeral (char : Char) : Prop :=
  char.isDigit = true ∨ char = '-'

instance (char : Char) : Decidable (StartsNumeral char) :=
  inferInstanceAs (Decidable (char.isDigit = true ∨ char = '-'))

theorem token?_eq_numeral? {char : Char} (rest : List Char) (starts : StartsNumeral char) :
    token? (char :: rest) = numeral? (char :: rest) := by
  have other {mark : Char} (notNumeral : ¬ StartsNumeral mark) : char ≠ mark := by
    rintro rfl
    exact notNumeral starts
  have unmarked : punctuation.lookup char = none := by
    have marks : ∀ entry ∈ punctuation, ¬ StartsNumeral entry.1 := by decide
    rw [List.lookup_eq_none_iff]
    exact fun entry member => bne_iff_ne.mpr (other (marks entry member))
  rw [token?, unmarked]
  dsimp only
  rw [if_neg (other (show ¬ StartsNumeral '"' by decide))]
  split
  · next word token found =>
    have begins := List.find?_some found
    obtain ⟨behind, whole⟩ := List.isPrefixOf_iff_prefix.mp begins
    have member := List.mem_of_find?_eq_some found
    rcases mem_words member with ⟨rfl, rfl⟩ | ⟨rfl, rfl⟩ | ⟨rfl, rfl⟩ <;>
      exact absurd (List.cons.inj whole).1.symm (other (by decide))
  · rfl

theorem IsWhole.exists_cons {whole : List Char} (isWhole : IsWhole whole) :
    ∃ digit more, whole = digit :: more ∧ digit.isDigit = true := by
  obtain ⟨notEmpty, all⟩ := isWhole.digits
  obtain ⟨digit, more, rfl⟩ := List.exists_cons_of_ne_nil notEmpty
  exact ⟨digit, more, rfl, all digit List.mem_cons_self⟩

theorem numeral?_of_digit {digit : Char} (rest : List Char) (isDigit : digit.isDigit = true) :
    numeral? (digit :: rest) = unsignedNumeral? false (digit :: rest) := by
  rw [numeral?.eq_def]
  split
  · next same =>
    obtain ⟨rfl, -⟩ := List.cons.inj same
    exact absurd isDigit (by decide)
  · rfl

theorem token?_append {token : Token} {text rest : List Char} (spelled : token.SpelledBy text)
    (ends : token.isNumeral = true → EndsNumeral rest) :
    token? (text ++ rest) = some (token, rest) := by
  cases spelled with
  | punctuation entry =>
    simp only [punctuation, List.mem_cons, Prod.mk.injEq, List.not_mem_nil, or_false] at entry
    rcases entry with ⟨rfl, rfl⟩ | ⟨rfl, rfl⟩ | ⟨rfl, rfl⟩ | ⟨rfl, rfl⟩ | ⟨rfl, rfl⟩ |
      ⟨rfl, rfl⟩ <;> rfl
  | word entry =>
    rcases mem_words entry with ⟨rfl, rfl⟩ | ⟨rfl, rfl⟩ | ⟨rfl, rfl⟩ <;> rfl
  | @string chars text spelled =>
    show (stringRest? [] ((text ++ ['"']) ++ rest)).map _ = _
    rw [List.append_assoc, List.singleton_append, stringRest?_of_spells spelled]
    rfl
  | @numeral negative whole fraction exponent isWhole isFraction isExponent =>
    have read := unsignedNumeral?_append negative isWhole isFraction isExponent
      (ends (isNumeral_numeralToken ..))
    rw [List.append_assoc, List.append_assoc, List.append_assoc]
    cases negative with
    | true => exact (token?_eq_numeral? _ (.inr rfl)).trans read
    | false =>
      obtain ⟨digit, more, rfl, isDigit⟩ := isWhole.exists_cons
      exact (token?_eq_numeral? _ (.inl isDigit)).trans ((numeral?_of_digit _ isDigit).trans read)

/-! ### Whole texts -/

theorem eq_of_isBlank {char : Char} (blank : isBlank char = true) :
    char = ' ' ∨ char = '\t' ∨ char = '\n' ∨ char = '\r' := by
  simpa only [isBlank, Bool.or_eq_true, beq_iff_eq, or_assoc] using blank

theorem endsNumeral_cons_of_isBlank {char : Char} (rest : List Char)
    (blank : isBlank char = true) : EndsNumeral (char :: rest) := by
  rintro first same
  obtain rfl := Option.some.inj same
  rcases eq_of_isBlank blank with rfl | rfl | rfl | rfl <;> decide

theorem not_isBlank_of_startsNumeral {char : Char} (starts : StartsNumeral char) :
    isBlank char = false := by
  refine Bool.eq_false_iff.mpr fun blank => ?_
  rcases eq_of_isBlank blank with rfl | rfl | rfl | rfl <;> exact absurd starts (by decide)

/-- A token starts with no blank, and carries no numeral on unless it is one itself. -/
theorem Token.SpelledBy.exists_cons {token : Token} {text : List Char}
    (spelled : token.SpelledBy text) :
    ∃ char more, text = char :: more ∧ isBlank char = false ∧
      (token.isNumeral = false → ∀ rest, EndsNumeral (char :: rest)) := by
  have ends {char : Char} (stops : char.isDigit = false ∧ char ≠ '.' ∧ char ≠ 'e' ∧ char ≠ 'E')
      (rest : List Char) : EndsNumeral (char :: rest) := by
    rintro first same
    obtain rfl := Option.some.inj same
    exact stops
  cases spelled with
  | punctuation entry =>
    have marks : ∀ entry ∈ Json.punctuation, isBlank entry.1 = false ∧
        entry.1.isDigit = false ∧ entry.1 ≠ '.' ∧ entry.1 ≠ 'e' ∧ entry.1 ≠ 'E' := by decide
    exact ⟨_, [], rfl, (marks _ entry).1, fun _ => ends (marks _ entry).2⟩
  | word entry =>
    rcases mem_words entry with ⟨rfl, rfl⟩ | ⟨rfl, rfl⟩ | ⟨rfl, rfl⟩ <;>
      exact ⟨_, _, rfl, by decide, fun _ => ends (by decide)⟩
  | string _ => exact ⟨'"', _, rfl, by decide, fun _ => ends (by decide)⟩
  | @numeral negative whole fraction exponent isWhole isFraction isExponent =>
    have isNumeral : (numeralToken negative whole fraction exponent).isNumeral ≠ false :=
      Bool.ne_false_iff.mpr (isNumeral_numeralToken ..)
    cases negative with
    | true => exact ⟨'-', _, rfl, by decide, fun other => absurd other isNumeral⟩
    | false =>
      obtain ⟨digit, more, rfl, isDigit⟩ := isWhole.exists_cons
      exact ⟨digit, _, rfl, not_isBlank_of_startsNumeral (.inl isDigit),
        fun other => absurd other isNumeral⟩

theorem endsNumeral_of_written {tokens : List Token} {text : List Char}
    (written : Written tokens text)
    (notNumeral : ∀ token ∈ tokens.head?, token.isNumeral = false) : EndsNumeral text := by
  cases written with
  | nil blank =>
    cases text with
    | nil => exact fun _ none => nomatch none
    | cons char more => exact endsNumeral_cons_of_isBlank more (blank char List.mem_cons_self)
  | @cons token tokens blanks text rest blank spelled others =>
    cases blanks with
    | nil =>
      obtain ⟨char, more, rfl, -, ends⟩ := spelled.exists_cons
      exact ends (notNumeral token rfl) (more ++ rest)
    | cons char more => exact endsNumeral_cons_of_isBlank _ (blank char List.mem_cons_self)

theorem Written.append {first second : List Token} {text rest : List Char}
    (ofFirst : Written first text) (ofSecond : Written second rest) :
    Written (first ++ second) (text ++ rest) := by
  induction ofFirst with
  | nil blank =>
    cases ofSecond with
    | nil otherBlank => exact .nil (List.forall_mem_append.mpr ⟨blank, otherBlank⟩)
    | cons otherBlank spelled others =>
      rw [← List.append_assoc]
      exact .cons (List.forall_mem_append.mpr ⟨blank, otherBlank⟩) spelled others
  | cons blank spelled _ inductionHypothesis =>
    rw [List.append_assoc, List.append_assoc]
    exact .cons blank spelled inductionHypothesis

theorem scan?_append_of_isBlank {blanks : List Char} (blank : IsBlank blanks) (rest : List Char) :
    scan? (blanks ++ rest) = scan? rest := by
  induction blanks with
  | nil => rfl
  | cons char more inductionHypothesis =>
    obtain ⟨first, others⟩ := List.forall_mem_cons.mp blank
    rw [List.cons_append, scan?, if_pos first, inductionHypothesis others]

theorem scan?_of_token? {char : Char} {chars rest : List Char} {token : Token}
    (notBlank : isBlank char = false) (found : token? (char :: chars) = some (token, rest)) :
    scan? (char :: chars) = (scan? rest).map (token :: ·) := by
  rw [scan?, if_neg (Bool.eq_false_iff.mp notBlank)]
  split
  · next missed =>
    rw [found] at missed
    cases missed
  · next other =>
    rw [found] at other
    cases other
    rfl

/-- Two tokens that may stand next to each other with no blank between them. -/
def Apart (first second : Token) : Prop :=
  first.isNumeral = true → second.isNumeral = false

/-- However the tokens are spelled and spaced, the scanner gets them back, if no two numerals stand
next to each other. -/
theorem scan?_of_written {tokens : List Token} {text : List Char} (written : Written tokens text)
    (apart : tokens.IsChain Apart) : scan? text = some tokens := by
  induction written with
  | @nil blanks blank =>
    rw [← List.append_nil blanks, scan?_append_of_isBlank blank, scan?]
  | @cons token tokens blanks text rest blank spelled others inductionHypothesis =>
    have ends (isNumeral : token.isNumeral = true) : EndsNumeral rest := by
      refine endsNumeral_of_written others fun second isSecond => ?_
      exact (List.isChain_cons.mp apart).1 second isSecond isNumeral
    obtain ⟨char, more, rfl, notBlank, -⟩ := spelled.exists_cons
    have found : token? (char :: (more ++ rest)) = some (token, rest) := token?_append spelled ends
    rw [scan?_append_of_isBlank blank, List.cons_append, scan?_of_token? notBlank found,
      inductionHypothesis apart.tail]
    rfl

end SixthEdition.Json
