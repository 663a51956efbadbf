/-! JSON as it is written: texts that denote no character sequence and numbers of any size are kept,
so that whoever reads a value decides what it must be. -/

namespace AliasSync

/-- A number as written: sign, digits, digits after the point, and exponent with its sign. -/
structure Json.Numeral where
  negative : Bool
  digits : List Char
  fraction : Option (List Char)
  exponent : Option (Bool × List Char)
  deriving DecidableEq, Repr

/-- A JSON value. A text is missing where escapes spell half a character. -/
inductive Json where
  | null
  | bool (value : Bool)
  | number (numeral : Json.Numeral)
  | string (text : Option String)
  | array (items : List Json)
  | object (members : List (Option String × Json))

end AliasSync
