/-
This file holds the writer of JSON texts: the tokens of a value in order, with
no blanks between them.
-/

import SixthEdition.Json.Basic
import SixthEdition.Json.Token.Basic

namespace SixthEdition.Json

/-- Token lists with a comma between each two. -/
def separated (parts : List (List Token)) : List Token :=
  [Token.comma].intercalate parts

mutual

def tokens : Json → List Token
  | .null => [.null]
  | .bool value => [.bool value]
  | .integer value => [.integer value]
  | .real numeral => [.real numeral]
  | .string value => [.string value]
  | .array items => .openBracket :: separated (itemTokens items) ++ [.closeBracket]
  | .object fields => .openBrace :: separated (fieldTokens fields) ++ [.closeBrace]

def itemTokens : List Json → List (List Token)
  | [] => []
  | item :: items => tokens item :: itemTokens items

def fieldTokens : List (String × Json) → List (List Token)
  | [] => []
  | (key, value) :: fields => (.string key :: .colon :: tokens value) :: fieldTokens fields

end

def render (value : Json) : String :=
  String.ofList (value.tokens.flatMap Token.text)

end SixthEdition.Json
