/-
This file holds the tokens of JSON and the one form in which each is written.
Strings escape what JSON requires and nothing else.
-/

import SixthEdition.Numeral

namespace SixthEdition.Json

inductive Token where
  | openBracket
  | closeBracket
  | openBrace
  | closeBrace
  | colon
  | comma
  | null
  | bool (value : Bool)
  | integer (value : Int)
  | real (numeral : List Char)
  | string (value : String)
  deriving DecidableEq

/-! ### Strings -/

/-- The letters that stand behind a backslash for one character each. -/
def shortEscapes : List (Char × Char) :=
  [('"', '"'), ('\\', '\\'), ('/', '/'), ('b', '\x08'), ('f', '\x0c'), ('n', '\n'), ('r', '\r'),
    ('t', '\t')]

/-- The letter for a character that is written with a short escape. A slash can be, but is
not. -/
def shortEscape? (char : Char) : Option Char :=
  if char = '/' then none else (shortEscapes.find? (·.2 == char)).map (·.1)

/-- A character as it is written inside a string. -/
def characterText (char : Char) : List Char :=
  match shortEscape? char with
  | some letter => ['\\', letter]
  | none =>
    if char.toNat < 32 then
      '\\' :: 'u' :: Numeral.padLeft 4 '0' (Numeral.hexadecimal char.toNat)
    else [char]

def stringText (chars : List Char) : List Char :=
  '"' :: chars.flatMap characterText ++ ['"']

/-! ### Tokens -/

def Token.text : Token → List Char
  | .openBracket => ['[']
  | .closeBracket => [']']
  | .openBrace => ['\x7b']
  | .closeBrace => ['\x7d']
  | .colon => [':']
  | .comma => [',']
  | .null => "null".toList
  | .bool true => "true".toList
  | .bool false => "false".toList
  | .integer value => Numeral.signed value
  | .real numeral => numeral
  | .string value => stringText value.toList

end SixthEdition.Json
