/-
This file holds the reader of JSON texts: the tokens of a text, put together to
one value with nothing after it. Each nested part is read with one unit less of
fuel, and a text has more than enough for all of its parts.
-/

import SixthEdition.Json.Basic
import SixthEdition.Json.Token.Scanner

namespace SixthEdition.Json

mutual

/-- The value at the start of the tokens, and what follows it. -/
def value? : Nat → List Token → Option (Json × List Token)
  | fuel + 1, .openBracket :: rest =>
    match rest with
    | .closeBracket :: rest => some (.array [], rest)
    | rest => (items? fuel rest).map fun (items, rest) => (.array items, rest)
  | fuel + 1, .openBrace :: rest =>
    match rest with
    | .closeBrace :: rest => some (.object [], rest)
    | rest => (fields? fuel rest).map fun (fields, rest) => (.object fields, rest)
  | _ + 1, .null :: rest => some (.null, rest)
  | _ + 1, .bool value :: rest => some (.bool value, rest)
  | _ + 1, .integer value :: rest => some (.integer value, rest)
  | _ + 1, .real numeral :: rest => some (.real numeral, rest)
  | _ + 1, .string value :: rest => some (.string value, rest)
  | _, _ => none

/-- The items up to the end of an array, at least one. -/
def items? : Nat → List Token → Option (List Json × List Token)
  | 0, _ => none
  | fuel + 1, tokens =>
    match value? fuel tokens with
    | some (item, .comma :: rest) =>
      (items? fuel rest).map fun (items, rest) => (item :: items, rest)
    | some (item, .closeBracket :: rest) => some ([item], rest)
    | _ => none

/-- The fields up to the end of an object, at least one. -/
def fields? : Nat → List Token → Option (List (String × Json) × List Token)
  | fuel + 1, .string key :: .colon :: rest =>
    match value? fuel rest with
    | some (value, .comma :: rest) =>
      (fields? fuel rest).map fun (fields, rest) => ((key, value) :: fields, rest)
    | some (value, .closeBrace :: rest) => some ([(key, value)], rest)
    | _ => none
  | _, _ => none

end

/-- The value that the tokens make up. -/
def ofTokens? (tokens : List Token) : Option Json :=
  match value? (2 * tokens.length + 1) tokens with
  | some (value, []) => some value
  | _ => none

/-- The value that a text denotes. -/
def parse? (text : String) : Option Json :=
  (scan? text.toList).bind ofTokens?

end SixthEdition.Json
