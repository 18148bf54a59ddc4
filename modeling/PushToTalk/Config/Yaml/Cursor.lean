/-
  A place in a YAML text.

  The meaning of YAML hangs on columns, so what is left of the text is kept together with the
  line and column where it begins.
-/

namespace PushToTalk.Config.Yaml

/-- What is left of a text, and where it begins. -/
structure Cursor where
  rest : List Char
  /-- Characters in front. -/
  offset : Nat
  line : Nat
  column : Nat
  deriving Repr

/-- Whether a character is a blank within a line. -/
def isBlank (c : Char) : Bool := c == ' ' || c == '\t'

/-- Whether a character ends a line. -/
def isBreak (c : Char) : Bool := c == '\n' || c == '\r'

/-- Whether a character has a meaning of its own inside brackets and braces. -/
def isFlow (c : Char) : Bool := c == ',' || c == '[' || c == ']' || c == '\x7b' || c == '\x7d'

/-- Whether a text begins with a blank, a line end, or not at all. -/
def beginsBlank (cs : List Char) : Bool :=
  match cs with
  | [] => true
  | c :: _ => isBlank c || isBreak c

/-- Whether a text begins with a line end, or not at all. -/
def beginsBreak (cs : List Char) : Bool :=
  match cs with
  | [] => true
  | c :: _ => isBreak c

namespace Cursor

/-- The place after the next character. -/
def skip (p : Cursor) : Cursor :=
  match p.rest with
  | [] => p
  | '\n' :: rest => ⟨rest, p.offset + 1, p.line + 1, 0⟩
  | _ :: rest => ⟨rest, p.offset + 1, p.line, p.column + 1⟩

/-- The place after so many characters. -/
def skipMany : Nat → Cursor → Cursor
  | 0, p => p
  | n + 1, p => skipMany n p.skip

/-- The place after a line end. -/
def skipBreak (p : Cursor) : Cursor :=
  match p.rest with
  | '\r' :: '\n' :: _ => p.skip.skip
  | _ => p.skip

/-- The place after the characters in front for which `p` holds. -/
def skipWhile (f : Char → Bool) (p : Cursor) : Cursor :=
  skipMany (p.rest.takeWhile f).length p

/-- Whether a line begins here that begins or ends a document. -/
def atMark (p : Cursor) : Bool :=
  p.column == 0 &&
    match p.rest with
    | '-' :: '-' :: '-' :: rest => beginsBlank rest
    | '.' :: '.' :: '.' :: rest => beginsBlank rest
    | _ => false

end Cursor

end PushToTalk.Config.Yaml
