import PushToTalk.Config.Value
import PushToTalk.Text.Blank
import PushToTalk.Text.Ranges

/-
  Configuration in sections.

  A line `key = value` or `key: value` gives an entry to the section named above it in square
  brackets, or to the top.  All values are texts, which may stand in quotes.  Comments have lines
  of their own, from the first column on.
-/

namespace PushToTalk.Config

namespace Ini

/-! ## Texts -/

/-- The character that a letter after a backslash stands for. -/
def escaped (c : Char) : Char :=
  match c with
  | '0' => '\x00'
  | 'a' => '\x07'
  | 'b' => '\x08'
  | 't' => '\t'
  | 'r' => '\r'
  | 'n' => '\n'
  | c => c

/-- The character of a code of four hexadecimal digits. -/
def coded? (ds : List Char) : Option Char :=
  if ds.length = 4 && ds.all fun d => (Text.hexDigit? d).isSome then
    (if (Text.hexValue ds).isValidChar then some (Char.ofNat (Text.hexValue ds)) else none)
  else none

/-- Reads up to a character for which `ends` holds, which is left; `atEnd` allows the end of the
text instead. Every step takes at least one character of `fuel`. -/
def readUntil (ends : Char → Bool) (atEnd : Bool) : Nat → List Char →
    Option (List Char × List Char)
  | 0, _ => none
  | _, [] => if atEnd then some ([], []) else none
  | fuel + 1, c :: rest =>
    let more (front : List Char) (rest : List Char) : Option (List Char × List Char) :=
      (readUntil ends atEnd fuel rest).map fun (cs, rest) => (front ++ cs, rest)
    if ends c then some ([], c :: rest)
    else if c == '\\' then
      match rest with
      | [] => none
      | '\n' :: rest => more [] rest
      | 'x' :: rest => (coded? (rest.take 4)).bind fun d => more [d] (rest.drop 4)
      | e :: rest => more [escaped e] rest
    else more [c] rest

/-- A text without the blanks around it. -/
def trim (cs : List Char) : String :=
  String.ofList ((cs.dropWhile Text.isBlank).reverse.dropWhile Text.isBlank).reverse

/-- Whether a character ends a line. -/
def isBreak (c : Char) : Bool := c == '\n' || c == '\r'

/-- Reads a value from behind its sign up to the end of the line. -/
def readValue (cs : List Char) : Option (String × List Char) :=
  let cs := cs.dropWhile fun c => Text.isBlank c && !isBreak c
  let line (cs : List Char) : Option (List Char × List Char) :=
    readUntil isBreak true (cs.length + 1) cs
  let quoted (quote : Char) (cs : List Char) : Option (List Char × List Char) :=
    (readUntil (· == quote) false (cs.length + 1) cs).bind fun (inner, rest) =>
      (line (rest.drop 1)).map fun (more, rest) => (inner ++ more, rest)
  (match cs with
    | '"' :: rest => quoted '"' rest
    | '\'' :: rest => quoted '\'' rest
    | _ => line cs).map fun (value, rest) => (trim value, rest)

/-! ## Sections -/

/-- A section with its entries so far; the top has no name. -/
structure Section where
  name : Option String
  entries : List (String × Value)
  deriving Repr

/-- The entries of a section put where they belong: those of the top as they are, a section as a
table in place of one of the same name. -/
def Section.put (origin : Option String) (s : Section) (es : List (String × Value)) :
    List (String × Value) :=
  match s.name with
  | none => s.entries.foldl (fun es e => Value.putIn e.1 e.2 es) es
  | some name => Value.putIn name (.table origin s.entries) es

/-- Reads the sections from `s` on. `key` is a key whose value has not come yet, `column` tells
whether the line has begun. -/
def readSections (origin : Option String) : Nat → Section → String → Bool → List Char →
    Option (List Section)
  | 0, _, _, _, _ => none
  | _, s, _, _, [] => some [s]
  | fuel + 1, s, key, begun, c :: rest =>
    if isBreak c then readSections origin fuel s key false rest
    else if Text.isBlank c then readSections origin fuel s key true rest
    else if c == ';' || c == '#' then
      if begun then none
      else readSections origin fuel s key false (rest.dropWhile (· != '\n'))
    else if c == '[' then
      (readUntil (· == ']') false (rest.length + 1) rest).bind fun (name, rest) =>
        (readSections origin fuel ⟨some (trim name), []⟩ key true (rest.drop 1)).map (s :: ·)
    else if c == '=' || c == ':' then
      if key == "" then none
      else
        (readValue rest).bind fun (value, rest) =>
          let entries := Value.putIn key (.scalar origin (.text value)) s.entries
          readSections origin fuel { s with entries } "" true rest
    else
      (readUntil (fun c => c == '=' || c == ':') false (rest.length + 2) (c :: rest)).bind
        fun (key, rest) => readSections origin fuel s (trim key) true rest

/-- The value of a text in sections. -/
def read (origin : Option String) (text : String) : Option Value :=
  let cs := text.toList
  (readSections origin (cs.length + 1) ⟨none, []⟩ "" false cs).map fun ss =>
    .table origin (ss.foldl (fun es s => s.put origin es) [])

end Ini

end PushToTalk.Config
