import PushToTalk.Text.Split
import PushToTalk.Url.Percent

/-
  Queries as forms: pairs of keys and values.

  A pair is written with an equals sign in the middle, and an ampersand stands between two pairs.
  Letters, digits and four signs stand for themselves, a blank becomes a plus sign, and every
  other byte is escaped.
-/

namespace PushToTalk.Url.Form

/-! ## Writing -/

/-- Whether a byte stands for itself. -/
def isPlain (b : UInt8) : Bool :=
  let c := asciiChar b
  b < 128 && (c.isAlphanum || c == '*' || c == '-' || c == '.' || c == '_')

/-- The spelling of a byte. -/
def writeByte (b : UInt8) : List Char :=
  if isPlain b then [asciiChar b] else if b == 32 then ['+'] else escapeByte b

/-- The spelling of a key or a value. -/
def writeText (s : String) : List Char := (Text.utf8 s.toList).flatMap writeByte

/-- The spelling of a pair. -/
def writePair (pair : String × String) : List Char :=
  writeText pair.1 ++ '=' :: writeText pair.2

/-- The spelling of a form. -/
def write (pairs : List (String × String)) : List Char := Text.join '&' (pairs.map writePair)

/-! ## Reading -/

/-- The key or value that a spelling stands for. -/
def readText? (cs : List Char) : Option String :=
  decodeText? (cs.map fun c => if c == '+' then ' ' else c)

/-- The pair that a spelling stands for; without an equals sign the value is empty. -/
def readPair? (cs : List Char) : Option (String × String) :=
  let key := cs.takeWhile (· != '=')
  match readText? key, readText? (cs.drop (key.length + 1)) with
  | some k, some v => some (k, v)
  | _, _ => none

/-- The form that a query spells; nothing between two ampersands is no pair. -/
def read? (cs : List Char) : Option (List (String × String)) :=
  ((Text.split '&' cs).filter (!·.isEmpty)).mapM readPair?

end PushToTalk.Url.Form
