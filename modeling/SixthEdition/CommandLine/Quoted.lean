/-
This file holds the quoted form in which a message shows an argument: in double
quotes, with quotes, backslashes and unprintable characters escaped.
-/

import SixthEdition.CommandLine.Shown
import SixthEdition.Numeral

namespace SixthEdition.CommandLine

/-- A character as it stands inside the quotes. -/
def quotedChar (char : Char) : List Char :=
  if char = '"' ∨ char = '\\' then ['\\', char]
  else if char = '\x00' then ['\\', '0']
  else if char = '\t' then ['\\', 't']
  else if char = '\n' then ['\\', 'n']
  else if char = '\r' then ['\\', 'r']
  else if isShown char then [char]
  else '\\' :: 'u' :: '\x7b' :: Numeral.hexadecimal char.toNat ++ ['\x7d']

def quoted (text : String) : String :=
  String.ofList ('"' :: text.toList.flatMap quotedChar ++ ['"'])

end SixthEdition.CommandLine
