import PushToTalk.Text.Numeral

/-
  Writing JSON: compact objects of texts, whole numbers and nulls.

  In a text the quote, the backslash and the controls below the space are escaped, the ones with
  a letter of their own by that letter; everything else stands as it is.
-/

namespace PushToTalk.Json

/-- The last hexadecimal digit of a number, lower case. -/
def hexDigit (n : Nat) : Char := Nat.digitChar (n % 16)

/-- The spelling of a character in a JSON text. -/
def escapeChar (c : Char) : List Char :=
  if c == '"' then ['\\', '"']
  else if c == '\\' then ['\\', '\\']
  else if c == '\x08' then ['\\', 'b']
  else if c == '\x0c' then ['\\', 'f']
  else if c == '\n' then ['\\', 'n']
  else if c == '\r' then ['\\', 'r']
  else if c == '\t' then ['\\', 't']
  else if c < ' ' then
    ['\\', 'u', '0', '0', hexDigit (c.toNat / 16), hexDigit c.toNat]
  else [c]

/-- A text between its quotes. -/
def writeText (cs : List Char) : List Char := '"' :: (cs.flatMap escapeChar ++ ['"'])

/-- What may stand in a field that is written. -/
inductive Written
  | null
  | integer (n : Int)
  | text (s : String)
  deriving DecidableEq, Repr

/-- The spelling of a value. -/
def Written.chars : Written → List Char
  | .null => "null".toList
  | .integer n => Text.Numeral.signed n
  | .text s => writeText s.toList

/-- Fields with commas between them. -/
def writeFields : List (String × Written) → List Char
  | [] => []
  | [(name, v)] => writeText name.toList ++ ':' :: v.chars
  | (name, v) :: rest => writeText name.toList ++ ':' :: (v.chars ++ ',' :: writeFields rest)

/-- An object without blanks, its fields in the order given. -/
def writeObject (fields : List (String × Written)) : String :=
  String.ofList ('\x7b' :: (writeFields fields ++ ['\x7d']))

end PushToTalk.Json
