/-
This file proves that a value of JSON is read back from every text in which its
tokens stand in order, however they are spelled and spaced.

The tokens of a value never have two numerals next to each other, so the scanner
gets them back. The reader takes each part of a value with one unit less of
fuel, and twice the number of a value's tokens is enough for it. The text that
the writer makes of a value is one of those texts, if the value's numerals are
all integers: the spelling that any other numeral is kept with need not be one.
-/

import SixthEdition.Json.Reader
import SixthEdition.Proofs.JsonTexts
import SixthEdition.Proofs.Numerals

namespace SixthEdition.Json

/-! ### The tokens of a value -/

/-- What holds of a compound value if it holds of its parts holds of all values. -/
theorem induct {Holds : Json → Prop} (null : Holds .null) (bool : ∀ value, Holds (.bool value))
    (integer : ∀ value, Holds (.integer value)) (real : ∀ numeral, Holds (.real numeral))
    (string : ∀ value, Holds (.string value))
    (array : ∀ items, (∀ item ∈ items, Holds item) → Holds (.array items))
    (object : ∀ fields, (∀ field ∈ fields, Holds field.2) → Holds (.object fields))
    (value : Json) : Holds value :=
  @Json.rec Holds (fun items => ∀ item ∈ items, Holds item)
    (fun fields => ∀ field ∈ fields, Holds field.2) (fun field => Holds field.2)
    null bool integer real string array object
    (fun _ none => absurd none List.not_mem_nil)
    (fun _ _ first others => List.forall_mem_cons.mpr ⟨first, others⟩)
    (fun _ none => absurd none List.not_mem_nil)
    (fun _ _ first others => List.forall_mem_cons.mpr ⟨first, others⟩)
    (fun _ _ second => second) value

theorem itemTokens_eq (items : List Json) : itemTokens items = items.map tokens := by
  induction items with
  | nil => rfl
  | cons item items inductionHypothesis => rw [itemTokens, inductionHypothesis, List.map_cons]

/-- The tokens of a field: its key, a colon and its value. -/
def tokensOfField (field : String × Json) : List Token :=
  .string field.1 :: .colon :: field.2.tokens

theorem length_tokensOfField (field : String × Json) :
    (tokensOfField field).length = field.2.tokens.length + 2 :=
  rfl

theorem fieldTokens_eq (fields : List (String × Json)) :
    fieldTokens fields = fields.map tokensOfField := by
  induction fields with
  | nil => rfl
  | cons field fields inductionHypothesis =>
    rw [fieldTokens, inductionHypothesis, List.map_cons]
    rfl

theorem tokens_array (items : List Json) :
    (array items).tokens = .openBracket :: (separated (items.map tokens) ++ [.closeBracket]) := by
  rw [tokens, itemTokens_eq]
  rfl

theorem tokens_object (fields : List (String × Json)) :
    (object fields).tokens =
      .openBrace :: (separated (fields.map tokensOfField) ++ [.closeBrace]) := by
  rw [tokens, fieldTokens_eq]
  rfl

theorem separated_singleton (part : List Token) : separated [part] = part :=
  List.intercalate_singleton

theorem separated_cons_cons (first second : List Token) (parts : List (List Token)) :
    separated (first :: second :: parts) = first ++ .comma :: separated (second :: parts) := by
  unfold separated
  rw [List.intercalate_cons_cons, List.append_assoc]
  rfl

theorem forall_mem_separated {Holds : Token → Prop} {parts : List (List Token)}
    (ofComma : Holds .comma) (each : ∀ part ∈ parts, ∀ token ∈ part, Holds token) :
    ∀ token ∈ separated parts, Holds token := by
  induction parts with
  | nil => exact List.forall_mem_nil _
  | cons first parts inductionHypothesis =>
    obtain ⟨ofFirst, ofOthers⟩ := List.forall_mem_cons.mp each
    cases parts with
    | nil => exact (separated_singleton first).symm ▸ ofFirst
    | cons second parts =>
      rw [separated_cons_cons]
      exact List.forall_mem_append.mpr
        ⟨ofFirst, List.forall_mem_cons.mpr ⟨ofComma, inductionHypothesis ofOthers⟩⟩

/-! ### No two numerals stand next to each other -/

theorem isChain_cons_of_not_isNumeral {token : Token} {tokens : List Token}
    (notNumeral : token.isNumeral = false) (others : tokens.IsChain Apart) :
    (token :: tokens).IsChain Apart :=
  List.isChain_cons.mpr
    ⟨fun _ _ isNumeral => absurd isNumeral (Bool.eq_false_iff.mp notNumeral), others⟩

theorem isChain_append_of_not_isNumeral {first second : List Token} {token : Token}
    (before : first.IsChain Apart) (notNumeral : token.isNumeral = false)
    (behind : second.IsChain Apart) : (first ++ token :: second).IsChain Apart := by
  refine List.isChain_append.mpr
    ⟨before, isChain_cons_of_not_isNumeral notNumeral behind, fun _ _ next isNext _ => ?_⟩
  obtain rfl := Option.some.inj isNext
  exact notNumeral

theorem isChain_separated {parts : List (List Token)}
    (each : ∀ part ∈ parts, part.IsChain Apart) : (separated parts).IsChain Apart := by
  induction parts with
  | nil => exact List.IsChain.nil
  | cons first parts inductionHypothesis =>
    obtain ⟨ofFirst, ofOthers⟩ := List.forall_mem_cons.mp each
    cases parts with
    | nil => exact (separated_singleton first).symm ▸ ofFirst
    | cons second parts =>
      rw [separated_cons_cons]
      exact isChain_append_of_not_isNumeral ofFirst rfl (inductionHypothesis ofOthers)

theorem isChain_tokens (value : Json) : value.tokens.IsChain Apart := by
  induction value using induct with
  | null | bool | integer | real | string => exact List.IsChain.singleton _
  | array items each =>
    rw [tokens_array]
    refine isChain_cons_of_not_isNumeral rfl
      (isChain_append_of_not_isNumeral (isChain_separated ?_) rfl List.IsChain.nil)
    exact List.forall_mem_map.mpr each
  | object fields each =>
    rw [tokens_object]
    refine isChain_cons_of_not_isNumeral rfl
      (isChain_append_of_not_isNumeral (isChain_separated ?_) rfl List.IsChain.nil)
    refine List.forall_mem_map.mpr fun field member => ?_
    exact isChain_cons_of_not_isNumeral rfl
      (isChain_cons_of_not_isNumeral rfl (each field member))

/-! ### Reading the tokens back -/

/-- The reader takes a value's tokens back to it, whatever follows them. -/
def ReadsBack (value : Json) : Prop :=
  ∀ (fuel : Nat) (rest : List Token), 2 * value.tokens.length ≤ fuel →
    value? fuel (value.tokens ++ rest) = some (value, rest)

theorem items?_of_readsBack {items : List Json} (notEmpty : items ≠ [])
    (each : ∀ item ∈ items, item.ReadsBack) (fuel : Nat) (rest : List Token)
    (enough : 2 * (separated (items.map tokens)).length < fuel) :
    items? fuel (separated (items.map tokens) ++ .closeBracket :: rest) = some (items, rest) := by
  induction items generalizing fuel with
  | nil => exact absurd rfl notEmpty
  | cons item items inductionHypothesis =>
    obtain ⟨ofItem, ofOthers⟩ := List.forall_mem_cons.mp each
    obtain ⟨fuel, rfl⟩ := Nat.exists_eq_add_one_of_ne_zero (Nat.ne_zero_of_lt enough)
    cases items with
    | nil =>
      rw [List.map_cons, List.map_nil, separated_singleton] at enough ⊢
      rw [items?, ofItem fuel _ (Nat.lt_succ_iff.mp enough)]
    | cons second items =>
      rw [List.map_cons, List.map_cons, separated_cons_cons, ← List.map_cons] at enough ⊢
      rw [List.length_append, List.length_cons] at enough
      -- The comma alone leaves the fuel that going on to the other items takes.
      have others := inductionHypothesis (List.cons_ne_nil second items) ofOthers fuel (by omega)
      rw [List.append_assoc, List.cons_append, items?, ofItem fuel _ (by omega)]
      dsimp only
      rw [others]
      rfl

theorem fields?_of_readsBack {fields : List (String × Json)} (notEmpty : fields ≠ [])
    (each : ∀ field ∈ fields, field.2.ReadsBack) (fuel : Nat) (rest : List Token)
    (enough : 2 * (separated (fields.map tokensOfField)).length < fuel) :
    fields? fuel (separated (fields.map tokensOfField) ++ .closeBrace :: rest) =
      some (fields, rest) := by
  induction fields generalizing fuel with
  | nil => exact absurd rfl notEmpty
  | cons field fields inductionHypothesis =>
    obtain ⟨ofField, ofOthers⟩ := List.forall_mem_cons.mp each
    obtain ⟨fuel, rfl⟩ := Nat.exists_eq_add_one_of_ne_zero (Nat.ne_zero_of_lt enough)
    have opened (behind : List Token) : tokensOfField field ++ behind =
        .string field.1 :: .colon :: (field.2.tokens ++ behind) := rfl
    cases fields with
    | nil =>
      rw [List.map_cons, List.map_nil, separated_singleton] at enough ⊢
      rw [length_tokensOfField] at enough
      rw [opened, fields?, ofField fuel _ (by omega)]
    | cons second fields =>
      rw [List.map_cons, List.map_cons, separated_cons_cons, ← List.map_cons] at enough ⊢
      rw [List.length_append, List.length_cons, length_tokensOfField] at enough
      have others := inductionHypothesis (List.cons_ne_nil second fields) ofOthers fuel (by omega)
      rw [List.append_assoc, opened, List.cons_append, fields?, ofField fuel _ (by omega)]
      dsimp only
      rw [others]
      rfl

theorem value?_openBracket (fuel : Nat) {tokens : List Token}
    (notClosed : tokens.head? ≠ some .closeBracket) :
    value? (fuel + 1) (.openBracket :: tokens) =
      (items? fuel tokens).map fun (items, rest) => (.array items, rest) := by
  rw [value?.eq_def]
  dsimp only
  split
  · exact absurd rfl notClosed
  · rfl

theorem value?_openBrace (fuel : Nat) {tokens : List Token}
    (notClosed : tokens.head? ≠ some .closeBrace) :
    value? (fuel + 1) (.openBrace :: tokens) =
      (fields? fuel tokens).map fun (fields, rest) => (.object fields, rest) := by
  rw [value?.eq_def]
  dsimp only
  split
  · exact absurd rfl notClosed
  · rfl

theorem head?_tokens (value : Json) : ∃ token ∈ value.tokens.head?, token ≠ .closeBracket := by
  cases value <;> exact ⟨_, rfl, nofun⟩

theorem mem_head?_separated {first : List Token} {token : Token} (starts : token ∈ first.head?)
    (parts : List (List Token)) (rest : List Token) :
    token ∈ (separated (first :: parts) ++ rest).head? := by
  refine List.mem_head?_append_of_mem_head? ?_
  cases parts with
  | nil => exact (separated_singleton first).symm ▸ starts
  | cons second parts =>
    rw [separated_cons_cons]
    exact List.mem_head?_append_of_mem_head? starts

theorem readsBack (value : Json) : value.ReadsBack := by
  induction value using induct with
  | null | bool | integer | real | string =>
    intro fuel rest enough
    obtain ⟨fuel, rfl⟩ := Nat.exists_eq_add_one_of_ne_zero (Nat.ne_zero_of_lt enough)
    rfl
  | array items each =>
    intro fuel rest enough
    obtain ⟨fuel, rfl⟩ := Nat.exists_eq_add_one_of_ne_zero (Nat.ne_zero_of_lt enough)
    rw [tokens_array] at enough ⊢
    rw [List.length_cons, List.length_append, List.length_singleton] at enough
    rw [List.cons_append, List.append_assoc, List.singleton_append]
    cases items with
    | nil => rfl
    | cons item items =>
      obtain ⟨token, starts, notClosed⟩ := item.head?_tokens
      have first := mem_head?_separated starts (items.map tokens) (.closeBracket :: rest)
      rw [← List.map_cons] at first
      rw [value?_openBracket fuel fun closed => notClosed (Option.mem_unique first closed),
        items?_of_readsBack (List.cons_ne_nil item items) each fuel rest (by omega)]
      rfl
  | object fields each =>
    intro fuel rest enough
    obtain ⟨fuel, rfl⟩ := Nat.exists_eq_add_one_of_ne_zero (Nat.ne_zero_of_lt enough)
    rw [tokens_object] at enough ⊢
    rw [List.length_cons, List.length_append, List.length_singleton] at enough
    rw [List.cons_append, List.append_assoc, List.singleton_append]
    cases fields with
    | nil => rfl
    | cons field fields =>
      have starts : .string field.1 ∈ (tokensOfField field).head? := rfl
      have first := mem_head?_separated starts (fields.map tokensOfField) (.closeBrace :: rest)
      rw [← List.map_cons] at first
      rw [value?_openBrace fuel fun closed => Token.noConfusion (Option.mem_unique first closed),
        fields?_of_readsBack (List.cons_ne_nil field fields) each fuel rest (by omega)]
      rfl

/-- A value is read back from each text in which its tokens stand in order. -/
theorem parse?_of_written {value : Json} {text : String}
    (written : Written value.tokens text.toList) : parse? text = some value := by
  have read := value.readsBack (2 * value.tokens.length + 1) [] (Nat.le_succ _)
  rw [List.append_nil] at read
  rw [parse?, scan?_of_written written value.isChain_tokens, Option.bind_some, ofTokens?, read]

/-! ### The text of the writer -/

theorem mem_shortEscapes_of_shortEscape? {char letter : Char}
    (escaped : shortEscape? char = some letter) : (letter, char) ∈ shortEscapes := by
  unfold shortEscape? at escaped
  split at escaped
  · cases escaped
  · obtain ⟨⟨found, same⟩, isFound, rfl⟩ := Option.map_eq_some_iff.mp escaped
    have isSame := List.find?_some isFound
    exact eq_of_beq isSame ▸ List.mem_of_find?_eq_some isFound

/-- The four digits that a control character is written with denote it. -/
theorem padLeft_hexadecimal : ∀ number < 32,
    Numeral.padLeft 4 '0' (Numeral.hexadecimal number) =
        ['0', '0', (number / 16).digitChar, (number % 16).digitChar] ∧
      codeUnit? '0' '0' (number / 16).digitChar (number % 16).digitChar = some number := by
  decide

theorem spellsCharacter_characterText (char : Char) :
    SpellsCharacter char (characterText char) := by
  unfold characterText
  split
  · next letter escaped => exact .short (mem_shortEscapes_of_shortEscape? escaped)
  · next notEscaped =>
    split
    · next control =>
      obtain ⟨digits, denotes⟩ := padLeft_hexadecimal char.toNat control
      have notSurrogate : ¬ 0xD800 ≤ char.toNat ∧ ¬ 0xDC00 ≤ char.toNat := by omega
      have spelled := SpellsCharacter.numeric denotes
        (by rw [isHighSurrogate, decide_eq_false notSurrogate.1, Bool.false_and])
        (by rw [isLowSurrogate, decide_eq_false notSurrogate.2, Bool.false_and])
      rw [digits]
      rwa [Char.ofNat_toNat] at spelled
    · next visible =>
      refine .plain ?_ ?_ (Nat.not_lt.mp visible)
      · rintro rfl
        cases notEscaped
      · rintro rfl
        cases notEscaped

theorem spellsCharacters_flatMap (chars : List Char) :
    SpellsCharacters chars (chars.flatMap characterText) := by
  induction chars with
  | nil => exact .nil
  | cons char chars inductionHypothesis =>
    exact .cons (spellsCharacter_characterText char) inductionHypothesis

theorem isWhole_decimal (number : Nat) : IsWhole (Numeral.decimal number) where
  digits := ⟨Nat.toDigits_ne_nil,
    fun _ member => Nat.isDigit_of_mem_toDigits (by decide) (by decide) member⟩
  canonical zero := by
    rw [Numeral.eq_zero_of_head?_toDigits (by decide) zero]
    rfl

theorem value_decimal (number : Nat) : Numeral.value (Numeral.decimal number) = number :=
  (Numeral.value_eq _).trans Nat.ofDigitChars_ten_toDigits

theorem numeralToken_decimal {negative : Bool} {magnitude : Nat}
    (notNegativeZero : negative = true → magnitude ≠ 0) :
    numeralToken negative (Numeral.decimal magnitude) [] [] =
      .integer (if negative then -magnitude else magnitude) := by
  unfold numeralToken
  rw [value_decimal, if_pos]
  refine ⟨rfl, rfl, ?_⟩
  cases negative with
  | false => rfl
  | true => simp [notNegativeZero rfl]

theorem spelledBy_signed (number : Int) :
    (Token.integer number).SpelledBy (Numeral.signed number) := by
  have isWhole := isWhole_decimal number.natAbs
  rw [← List.append_nil (Numeral.signed number)]
  unfold Numeral.signed
  split
  · next negative =>
    have same : numeralToken true (Numeral.decimal number.natAbs) [] [] = .integer number := by
      rw [numeralToken_decimal fun _ => by omega, if_pos rfl, Int.ofNat_natAbs_of_nonpos (by omega),
        Int.neg_neg]
    exact same ▸ .numeral true isWhole .none .none
  · next notNegative =>
    have same : numeralToken false (Numeral.decimal number.natAbs) [] [] = .integer number := by
      rw [numeralToken_decimal (fun yes => absurd yes Bool.false_ne_true),
        if_neg Bool.false_ne_true, Int.natAbs_of_nonneg (by omega)]
    exact same ▸ .numeral false isWhole .none .none

def Token.isReal : Token → Bool
  | .real _ => true
  | _ => false

theorem spelledBy_text {token : Token} (notReal : token.isReal = false) :
    token.SpelledBy token.text := by
  cases token with
  | openBracket | closeBracket | openBrace | closeBrace | colon | comma =>
    exact .punctuation (by decide)
  | null => exact .word (by decide)
  | bool value => cases value <;> exact .word (by decide)
  | integer value => exact spelledBy_signed value
  | real numeral => cases notReal
  | string value =>
    have spelled := Token.SpelledBy.string (spellsCharacters_flatMap value.toList)
    rwa [String.ofList_toList] at spelled

/-- A value all of whose numerals are integers. -/
def IsIntegral (value : Json) : Prop :=
  ∀ token ∈ value.tokens, token.isReal = false

instance (value : Json) : Decidable value.IsIntegral :=
  inferInstanceAs (Decidable (∀ token ∈ value.tokens, token.isReal = false))

theorem isIntegral_integer (value : Int) : (integer value).IsIntegral :=
  List.forall_mem_singleton.mpr rfl

theorem isIntegral_string (value : String) : (string value).IsIntegral :=
  List.forall_mem_singleton.mpr rfl

theorem isIntegral_array {items : List Json} (each : ∀ item ∈ items, item.IsIntegral) :
    (array items).IsIntegral := by
  rw [IsIntegral, tokens_array]
  refine List.forall_mem_cons.mpr ⟨rfl, List.forall_mem_append.mpr
    ⟨forall_mem_separated rfl ?_, List.forall_mem_singleton.mpr rfl⟩⟩
  exact List.forall_mem_map.mpr each

theorem isIntegral_object {fields : List (String × Json)}
    (each : ∀ field ∈ fields, field.2.IsIntegral) : (object fields).IsIntegral := by
  rw [IsIntegral, tokens_object]
  refine List.forall_mem_cons.mpr ⟨rfl, List.forall_mem_append.mpr
    ⟨forall_mem_separated rfl ?_, List.forall_mem_singleton.mpr rfl⟩⟩
  refine List.forall_mem_map.mpr fun field isField => ?_
  exact List.forall_mem_cons.mpr ⟨rfl, List.forall_mem_cons.mpr ⟨rfl, each field isField⟩⟩

theorem written_text {tokens : List Token} (notReal : ∀ token ∈ tokens, token.isReal = false) :
    Written tokens (tokens.flatMap Token.text) := by
  induction tokens with
  | nil => exact .nil (List.forall_mem_nil _)
  | cons token tokens inductionHypothesis =>
    obtain ⟨first, others⟩ := List.forall_mem_cons.mp notReal
    exact .cons (List.forall_mem_nil _) (spelledBy_text first) (inductionHypothesis others)

/-- The writer's text of a value is one in which the value's tokens stand in order. -/
theorem written_render {value : Json} (isIntegral : value.IsIntegral) :
    Written value.tokens value.render.toList := by
  rw [render, String.toList_ofList]
  exact written_text isIntegral

end SixthEdition.Json
