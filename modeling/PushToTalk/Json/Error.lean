import PushToTalk.Decimal.Shortest
import PushToTalk.Text.Quoted

/-
  What can be wrong with a JSON text, and where it was noticed.

  A reader that fails hands back a `Slip`: the cause, the input that was still unread, and how
  many bytes of it had already been taken in.  Line and column are worked out from that at the
  very end (`Slip.locate`); columns count bytes.
-/

namespace PushToTalk.Json

/-! ## Causes -/

/-- What was found where something else was expected. -/
inductive Found
  | null
  | boolean (b : Bool)
  | integer (n : Int)
  | number (x : Float)
  | text (s : String)
  | sequence
  | object
  deriving Repr

/-- Why a text is not the JSON that was expected. -/
inductive Cause
  /-- The input ended where a value had to start or go on. -/
  | endInValue
  | endInText
  | endInList
  | endInObject
  | wantColon
  | wantListComma
  | wantObjectComma
  | wantValue
  | wantWord
  | keyNotText
  | controlCharacter
  | badEscape
  | badNumber
  | numberRange
  | loneSurrogate
  | halfSurrogate
  | trailingComma
  | trailingCharacters
  | nestedTooDeep
  /-- A value of another kind than the one that was expected. -/
  | wrongType (found : Found) (expected : String)
  /-- A number that the expected type does not have. -/
  | wrongValue (n : Int) (expected : String)
  /-- A list with too few elements. -/
  | wrongLength (count : Nat) (expected : String)
  /-- A field that had to be there. -/
  | missing (field : String)
  /-- A field that came twice. -/
  | duplicate (field : String)
  deriving Repr

/-- Whether the text is well-formed so far, and only its content is wrong. -/
def Cause.isContent : Cause → Bool
  | .wrongType .. | .wrongValue .. | .wrongLength .. | .missing _ | .duplicate _ => true
  | _ => false

/-- How a found value is named in a message. -/
def Found.describe : Found → String
  | .null => "null"
  | .boolean b => "boolean \x60" ++ (if b then "true" else "false") ++ "\x60"
  | .integer n => "integer \x60" ++ Text.Numeral.ofInt n ++ "\x60"
  | .number x => "floating point \x60" ++ Decimal.Layout.message.write x ++ "\x60"
  | .text s => "string " ++ Text.quoted s
  | .sequence => "sequence"
  | .object => "map"

/-- The wording of a cause, without the place. -/
def Cause.message : Cause → String
  | .endInValue => "EOF while parsing a value"
  | .endInText => "EOF while parsing a string"
  | .endInList => "EOF while parsing a list"
  | .endInObject => "EOF while parsing an object"
  | .wantColon => "expected \x60:\x60"
  | .wantListComma => "expected \x60,\x60 or \x60]\x60"
  | .wantObjectComma => "expected \x60,\x60 or \x60\x7d\x60"
  | .wantValue => "expected value"
  | .wantWord => "expected ident"
  | .keyNotText => "key must be a string"
  | .controlCharacter =>
    "control character (\\u0000-\\u001F) found while parsing a string"
  | .badEscape => "invalid escape"
  | .badNumber => "invalid number"
  | .numberRange => "number out of range"
  | .loneSurrogate => "lone leading surrogate in hex escape"
  | .halfSurrogate => "unexpected end of hex escape"
  | .trailingComma => "trailing comma"
  | .trailingCharacters => "trailing characters"
  | .nestedTooDeep => "recursion limit exceeded"
  | .wrongType found expected =>
    "invalid type: " ++ found.describe ++ ", expected " ++ expected
  | .wrongValue n expected =>
    "invalid value: integer \x60" ++ Text.Numeral.ofInt n ++ "\x60, expected " ++ expected
  | .wrongLength count expected =>
    "invalid length " ++ Text.Numeral.ofNat count ++ ", expected " ++ expected
  | .missing field => "missing field \x60" ++ field ++ "\x60"
  | .duplicate field => "duplicate field \x60" ++ field ++ "\x60"

/-! ## Places -/

/-- A failure as a reader notices it. -/
structure Slip where
  /-- What is wrong. -/
  cause : Cause
  /-- The input from the place on where it was noticed. -/
  rest : List Char
  /-- How many bytes of that input were taken in already. -/
  past : Nat
  /-- The fields and elements that lead to the value being read, outermost first. -/
  trail : List String
  deriving Repr

/-- A failure with its line and column. -/
structure Error where
  cause : Cause
  /-- One more than the line feeds in front of the place. -/
  line : Nat
  /-- Bytes since the last line feed. -/
  column : Nat
  /-- The fields and elements that lead to the value, outermost first. -/
  trail : List String
  deriving Repr

/-- Works out line and column of a slip in `input`. -/
def Slip.locate (s : Slip) (input : List Char) : Error :=
  let before := input.take (input.length - s.rest.length)
  let taken := Text.utf8 before ++ (Text.utf8 s.rest).take s.past
  { cause := s.cause
    line := taken.count 10 + 1
    column := (taken.reverse.takeWhile (· != 10)).length
    trail := s.trail }

/-- The wording of a failure with its place. -/
def Error.message (e : Error) : String :=
  e.cause.message ++ " at line " ++ Text.Numeral.ofNat e.line
    ++ " column " ++ Text.Numeral.ofNat e.column

end PushToTalk.Json
