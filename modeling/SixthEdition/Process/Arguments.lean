/-
This file holds the arguments of a program as it finds them at the top of its
image. From the top down these are the argument strings, each ended by a zero
byte and all padded to whole words, then a word of ones, the places of the
strings, and their number.
-/

import SixthEdition.Bytes
import SixthEdition.Numeral

namespace SixthEdition.Arguments

/-- The arguments and their vector take more bytes than the image has. -/
structure TooLarge where
  needed : Nat
  available : Nat
  deriving DecidableEq

def TooLarge.message (fault : TooLarge) : String :=
  "argument vector needs " ++ String.ofList (Numeral.decimal fault.needed) ++
    " bytes but the image is " ++ String.ofList (Numeral.decimal fault.available) ++ " bytes"

/-- A zero byte more where that is needed to fill the last word. -/
def wordPadded (bytes : Bytes) : Bytes :=
  if bytes.length % 2 = 0 then bytes else bytes ++ [0]

/-- The strings in order, each ended by a zero byte, padded to whole words. -/
def strings (arguments : List Bytes) : Bytes :=
  wordPadded (arguments.flatMap (· ++ [0]))

/-- The place of each string when the first one is at `start`. -/
def places (start : Nat) : List Bytes → List Nat
  | [] => []
  | argument :: rest => start :: places (start + argument.length + 1) rest

/-- The number of strings, their places and the closing word of ones. Places above the 16-bit
address space wrap around. -/
def vector (start : Nat) (arguments : List Bytes) : Bytes :=
  (UInt16.ofNat arguments.length :: (places start arguments).map UInt16.ofNat ++
    [0xFFFF]).flatMap Word.toBytes

/-- The length of the vector of `count` arguments. -/
def vectorSize (count : Nat) : Nat :=
  2 * (count + 2)

/-- The image with the arguments at its top. -/
def layOut (arguments : List Bytes) (image : Bytes) : Except TooLarge Bytes :=
  let strings := strings arguments
  let needed := vectorSize arguments.length + strings.length
  let available := image.length
  if available < needed then .error ⟨needed, available⟩
  else
    .ok (image.take (available - needed) ++ vector (available - strings.length) arguments ++
      strings)

end SixthEdition.Arguments
