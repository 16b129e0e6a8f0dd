/-
This file holds the values of JSON. An object keeps all its fields in the order
in which they are written, a repeated key included, because a reader of objects
may have to refuse it. Integers keep their exact value; any other numeral keeps
its spelling.
-/

namespace SixthEdition

inductive Json where
  | null
  | bool (value : Bool)
  | integer (value : Int)
  | real (numeral : List Char)
  | string (value : String)
  | array (items : List Json)
  | object (fields : List (String × Json))

end SixthEdition
