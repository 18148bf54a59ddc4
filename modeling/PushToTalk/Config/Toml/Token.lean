import PushToTalk.Text.Ranges

/-
  The tokens of TOML.

  A word is a run of letters, digits, hyphens and underscores: bare keys, truth values, and the
  pieces of numbers and dates.  Blanks are tokens of their own, because a date may hold one.
-/

namespace PushToTalk.Config.Toml

/-- A token. -/
inductive Token
  /-- Spaces and tabs. -/
  | gap (spelling : List Char)
  | newline
  | comment
  | equals
  | period
  | comma
  | colon
  | plus
  | openBrace
  | closeBrace
  | openBracket
  | closeBracket
  | word (spelling : List Char)
  /-- A text in quotes; `long` if three of them. -/
  | text (value : List Char) (long : Bool)
  deriving DecidableEq, Repr

namespace Token

/-! ## Texts -/

/-- Whether a character may stand in a text as it is. -/
def isTextChar (c : Char) : Bool := c == '\t' || (' ' ≤ c && c != '\x7f')

/-- The character that a code of hexadecimal digits stands for. -/
def coded? (ds : List Char) : Option Char :=
  match ds.foldlM (fun n c => (Text.hexDigit? c).map (16 * n + ·)) 0 with
  | some n => if n.isValidChar then some (Char.ofNat n) else none
  | none => none

/-- Skips the line break that a backslash takes back, and the blanks after it; `cs` begins after
the backslash. -/
def skipBreak (cs : List Char) : Option (List Char) :=
  match cs.dropWhile fun c => c == ' ' || c == '\t' with
  | '\n' :: rest => some (rest.dropWhile fun c => c == ' ' || c == '\t' || c == '\n')
  | [] => some []
  | _ => none

/-- Reads what a backslash stands for; `cs` begins after it. -/
def readEscape (long : Bool) (cs : List Char) : Option (List Char × List Char) :=
  match cs with
  | '"' :: rest => some (['"'], rest)
  | '\\' :: rest => some (['\\'], rest)
  | 'b' :: rest => some (['\x08'], rest)
  | 'f' :: rest => some (['\x0c'], rest)
  | 'n' :: rest => some (['\n'], rest)
  | 'r' :: rest => some (['\r'], rest)
  | 't' :: rest => some (['\t'], rest)
  | 'u' :: rest =>
    if rest.length < 4 then none else (coded? (rest.take 4)).map fun c => ([c], rest.drop 4)
  | 'U' :: rest =>
    if rest.length < 8 then none else (coded? (rest.take 8)).map fun c => ([c], rest.drop 8)
  | c :: _ =>
    if long && (c == ' ' || c == '\t' || c == '\n') then (skipBreak cs).map fun rest => ([], rest)
    else none
  | [] => none

/-- Reads a text up to its quotes; `value` was read so far, backwards. Every step takes at least
one character of `fuel`. -/
def readText (quote : Char) (long : Bool) : Nat → List Char → List Char →
    Option (List Char × List Char)
  | 0, _, _ => none
  | fuel + 1, value, cs =>
    match cs with
    | [] => none
    | c :: rest =>
      if c == quote then
        if !long then some (value.reverse, rest)
        else
          match rest with
          | a :: b :: rest' =>
            if a == quote && b == quote then
              let more := (rest'.takeWhile (· == quote)).take 2
              some ((more ++ value).reverse, rest'.drop more.length)
            else readText quote long fuel (quote :: value) rest
          | _ => readText quote long fuel (quote :: value) rest
      else if c == '\n' then
        if long then readText quote long fuel ('\n' :: value) rest else none
      else if c == '\\' && quote == '"' then
        match readEscape long rest with
        | some (cs', rest) => readText quote long fuel (cs' ++ value) rest
        | none => none
      else if isTextChar c then readText quote long fuel (c :: value) rest
      else none

/-- Reads a text; `cs` begins after its first quote. A line break right after three quotes does
not count. -/
def readQuoted (quote : Char) (cs : List Char) : Option (Token × List Char) :=
  let close (long : Bool) (cs : List Char) : Option (Token × List Char) :=
    (readText quote long (cs.length + 1) [] cs).map fun (value, rest) => (.text value long, rest)
  match cs with
  | a :: b :: rest =>
    if a == quote && b == quote then
      match rest with
      | '\n' :: rest => close true rest
      | _ => close true rest
    else close false cs
  | _ => close false cs

/-! ## Tokens -/

/-- Whether a character belongs to a word. -/
def isWordChar (c : Char) : Bool := c.isAlphanum || c == '-' || c == '_'

/-- Whether a character may stand in a comment. -/
def isCommentChar (c : Char) : Bool := c == '\t' || ' ' ≤ c

/-- Reads the first token of a text that is not empty. -/
def read (c : Char) (rest : List Char) : Option (Token × List Char) :=
  let run (p : Char → Bool) (make : List Char → Token) : Option (Token × List Char) :=
    some (make (c :: rest.takeWhile p), rest.dropWhile p)
  match c with
  | '\n' => some (.newline, rest)
  | ' ' | '\t' => run (fun c => c == ' ' || c == '\t') .gap
  | '#' => run isCommentChar fun _ => .comment
  | '=' => some (.equals, rest)
  | '.' => some (.period, rest)
  | ',' => some (.comma, rest)
  | ':' => some (.colon, rest)
  | '+' => some (.plus, rest)
  | '\x7b' => some (.openBrace, rest)
  | '\x7d' => some (.closeBrace, rest)
  | '[' => some (.openBracket, rest)
  | ']' => some (.closeBracket, rest)
  | '\'' => readQuoted '\'' rest
  | '"' => readQuoted '"' rest
  | _ => if isWordChar c then run isWordChar .word else none

/-- Takes a text apart; every token takes at least one character of `fuel`. -/
def readAll : Nat → List Char → Option (List Token)
  | _, [] => some []
  | 0, _ :: _ => none
  | fuel + 1, c :: rest =>
    (read c rest).bind fun (token, rest) => (readAll fuel rest).map (token :: ·)

/-- A text with its line ends in one spelling. -/
def unifyLines : List Char → List Char
  | '\r' :: '\n' :: rest => '\n' :: unifyLines rest
  | c :: rest => c :: unifyLines rest
  | [] => []

/-- The tokens of a text; a mark for the order of bytes in front of it does not count. -/
def scan (text : String) : Option (List Token) :=
  let cs := unifyLines text.toList
  let cs := match cs with
    | '\ufeff' :: rest => rest
    | _ => cs
  readAll cs.length cs

end Token

end PushToTalk.Config.Toml
