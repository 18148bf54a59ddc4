import PushToTalk.Config.Value
import PushToTalk.Decimal.Nearest
import PushToTalk.Text.Ranges

/-
  Configuration in JSON5.

  JSON with comments, keys without quotes, texts in single quotes, commas at the end of lists, and
  more spellings of numbers.
-/

namespace PushToTalk.Config

namespace Json5

/-! ## Between tokens -/

/-- Whether a character ends a line. -/
def isBreak (c : Char) : Bool := c == '\n' || c == '\r' || c == '\u2028' || c == '\u2029'

/-- Whether a character is blank between tokens. -/
def isGap (c : Char) : Bool :=
  isBreak c || c == ' ' || c == '\t' || c == '\x0b' || c == '\x0c' || c == '\u00a0'
    || c == '\ufeff' || c == '\u1680' || ('\u2000' ≤ c && c ≤ '\u200a') || c == '\u202f'
    || c == '\u205f' || c == '\u3000'

/-- The input after a comment, from behind its two signs. -/
def skipLong : List Char → Option (List Char)
  | '*' :: '/' :: rest => some rest
  | _ :: rest => skipLong rest
  | [] => none

/-- The input after blanks and comments. -/
def skipGaps : Nat → List Char → List Char
  | 0, cs => cs
  | fuel + 1, cs =>
    match cs with
    | '/' :: '/' :: rest => skipGaps fuel (rest.dropWhile fun c => !isBreak c)
    | '/' :: '*' :: rest => ((skipLong rest).map (skipGaps fuel)).getD cs
    | c :: rest => if isGap c then skipGaps fuel rest else cs
    | [] => []

/-- The input after blanks and comments. -/
def skip (cs : List Char) : List Char := skipGaps cs.length cs

/-! ## Numbers -/

/-- Reads the exponent of a number; without its letter there is none. -/
def readExponent (cs : List Char) : Option (Option Int × List Char) :=
  match cs with
  | c :: rest =>
    if c != 'e' && c != 'E' then some (none, cs)
    else
      let (negative, rest) := match rest with
        | '-' :: rest => (true, rest)
        | '+' :: rest => (false, rest)
        | _ => (false, rest)
      let ds := rest.takeWhile Text.Numeral.isDigit
      let e : Int := Text.Numeral.value ds
      if ds.isEmpty then none
      else some (some (if negative then -e else e), rest.dropWhile Text.Numeral.isDigit)
  | [] => some (none, [])

/-- Reads the digits of a number behind its sign. -/
def readDecimal (negative : Bool) (cs : List Char) : Option (Scalar × List Char) := do
  let whole := match cs with
    | '0' :: _ => ['0']
    | _ => cs.takeWhile Text.Numeral.isDigit
  let rest := cs.drop whole.length
  let (point, fraction, rest) := match rest with
    | '.' :: rest =>
      (true, rest.takeWhile Text.Numeral.isDigit, rest.dropWhile Text.Numeral.isDigit)
    | _ => (false, [], rest)
  if whole.isEmpty && fraction.isEmpty then none
  else
    let (exponent, rest) ← readExponent rest
    if point || exponent.isSome then
      let x := (Decimal.Written.mk negative whole fraction (exponent.getD 0)).nearest
      if x.isFinite then some (.real x, rest) else none
    else
      let n : Int := if negative then -Text.Numeral.value whole else Text.Numeral.value whole
      if -Int.pow 2 63 ≤ n && n < Int.pow 2 63 then some (.whole n, rest) else none

/-- Reads a number. Hexadecimal ones have no sign and at most 32 bits; a plus sign makes an
infinity no number. -/
def readNumber (cs : List Char) : Option (Scalar × List Char) :=
  let (sign, cs) := match cs with
    | '-' :: rest => (some true, rest)
    | '+' :: rest => (some false, rest)
    | _ => (none, cs)
  let negative := sign.getD false
  let word (w : String) (x : Float) : Option (Scalar × List Char) :=
    if sign == some false then none
    else some (.real (if negative then -x else x), cs.drop w.length)
  match cs with
  | '0' :: x :: rest =>
    if x == 'x' || x == 'X' then
      let ds := rest.takeWhile fun c => (Text.hexDigit? c).isSome
      if ds.isEmpty || sign.isSome || UInt32.size ≤ Text.hexValue ds then none
      else some (.whole (Text.hexValue ds), rest.drop ds.length)
    else readDecimal negative cs
  | _ =>
    if "Infinity".toList.isPrefixOf cs then word "Infinity" (1 / 0)
    else if "NaN".toList.isPrefixOf cs then word "NaN" (0 / 0)
    else readDecimal negative cs

/-! ## Texts -/

/-- The number of so many hexadecimal digits. -/
def readHex (count : Nat) (cs : List Char) : Option (Nat × List Char) :=
  let ds := cs.take count
  if ds.length = count && ds.all fun d => (Text.hexDigit? d).isSome then
    some (Text.hexValue ds, cs.drop count)
  else none

/-- Reads the character of a code, which may be spelled as a pair of codes. -/
def readCode (cs : List Char) : Option (Char × List Char) :=
  (readHex 4 cs).bind fun (n, rest) =>
    if n < 0xD800 || 0xDFFF < n then some (Char.ofNat n, rest)
    else if 0xDC00 ≤ n then none
    else match rest with
      | '\\' :: 'u' :: rest =>
        (readHex 4 rest).bind fun (m, rest) =>
          if m < 0xDC00 || 0xDFFF < m then none
          else some (Char.ofNat (0x10000 + (n - 0xD800) * 0x400 + (m - 0xDC00)), rest)
      | _ => none

/-- Reads what a backslash stands for. -/
def readEscape (cs : List Char) : Option (List Char × List Char) :=
  match cs with
  | 'b' :: rest => some (['\x08'], rest)
  | 'f' :: rest => some (['\x0c'], rest)
  | 'n' :: rest => some (['\n'], rest)
  | 'r' :: rest => some (['\r'], rest)
  | 't' :: rest => some (['\t'], rest)
  | 'v' :: rest => some (['\x0b'], rest)
  | '0' :: rest => some (['\x00'], rest)
  | 'x' :: rest => (readHex 2 rest).map fun (n, rest) => ([Char.ofNat n], rest)
  | 'u' :: rest => (readCode rest).map fun (c, rest) => ([c], rest)
  | '\r' :: '\n' :: rest => some ([], rest)
  | c :: rest =>
    if isBreak c then some ([], rest)
    else if Text.Numeral.isDigit c then none
    else some ([c], rest)
  | [] => none

/-- Reads a text from behind its first quote. -/
def readText (quote : Char) : Nat → List Char → Option (List Char × List Char)
  | 0, _ => none
  | fuel + 1, cs =>
    let more (front rest : List Char) : Option (List Char × List Char) :=
      (readText quote fuel rest).map fun (cs, rest) => (front ++ cs, rest)
    match cs with
    | [] => none
    | '\\' :: rest => (readEscape rest).bind fun (front, rest) => more front rest
    | c :: rest =>
      if c == quote then some ([], rest) else if isBreak c then none else more [c] rest

/-- Whether a character may begin a key without quotes. -/
def beginsName (c : Char) : Bool :=
  c.isAlpha || c == '$' || c == '_' || (128 ≤ c.toNat && !isGap c)

/-- Reads a key without quotes, after the first `begun` characters of which one has come. -/
def readName (begun : Bool) : Nat → List Char → Option (List Char × List Char)
  | 0, _ => none
  | fuel + 1, cs =>
    let finish : Option (List Char × List Char) := if begun then some ([], cs) else none
    match cs with
    | '\\' :: 'u' :: rest =>
      (readCode rest).bind fun (c, rest) =>
        (readName true fuel rest).map fun (cs, rest) => (c :: cs, rest)
    | c :: rest =>
      if beginsName c || (begun && Text.Numeral.isDigit c) then
        (readName true fuel rest).map fun (cs, rest) => (c :: cs, rest)
      else finish
    | [] => finish

/-- Reads a key. -/
def readKey (cs : List Char) : Option (String × List Char) :=
  (match cs with
    | '"' :: rest => readText '"' (rest.length + 1) rest
    | '\'' :: rest => readText '\'' (rest.length + 1) rest
    | _ => readName false (cs.length + 1) cs).map fun (key, rest) => (String.ofList key, rest)

/-! ## Values -/

mutual

/-- Reads a value. Every character takes at most two of `fuel`. -/
def readValue (origin : Option String) : Nat → List Char → Option (Value × List Char)
  | 0, _ => none
  | fuel + 1, cs =>
    let scalar (r : Option (Scalar × List Char)) : Option (Value × List Char) :=
      r.map fun (s, rest) => (.scalar origin s, rest)
    let text (r : Option (List Char × List Char)) : Option (Value × List Char) :=
      r.map fun (t, rest) => (.scalar origin (.text (String.ofList t)), rest)
    match cs with
    | 'n' :: 'u' :: 'l' :: 'l' :: rest => scalar (some (.nothing, rest))
    | 't' :: 'r' :: 'u' :: 'e' :: rest => scalar (some (.truth true, rest))
    | 'f' :: 'a' :: 'l' :: 's' :: 'e' :: rest => scalar (some (.truth false, rest))
    | '"' :: rest => text (readText '"' (rest.length + 1) rest)
    | '\'' :: rest => text (readText '\'' (rest.length + 1) rest)
    | '[' :: rest => (readItems origin fuel (skip rest)).map fun (vs, rest) => (.list origin vs, rest)
    | '\x7b' :: rest =>
      (readEntries origin fuel [] (skip rest)).map fun (es, rest) => (.table origin es, rest)
    | _ => scalar (readNumber cs)

/-- Reads the items of a list up to its closing bracket. -/
def readItems (origin : Option String) : Nat → List Char → Option (List Value × List Char)
  | 0, _ => none
  | fuel + 1, cs =>
    match cs with
    | ']' :: rest => some ([], rest)
    | _ =>
      (readValue origin fuel cs).bind fun (v, rest) =>
        match skip rest with
        | ',' :: rest => (readItems origin fuel (skip rest)).map fun (vs, rest) => (v :: vs, rest)
        | ']' :: rest => some ([v], rest)
        | _ => none

/-- Reads the entries of an object up to its closing brace, `es` having come before. -/
def readEntries (origin : Option String) : Nat → List (String × Value) → List Char →
    Option (List (String × Value) × List Char)
  | 0, _, _ => none
  | fuel + 1, es, cs =>
    match cs with
    | '\x7d' :: rest => some (es, rest)
    | _ =>
      (readKey cs).bind fun (key, rest) =>
        match skip rest with
        | ':' :: rest =>
          (readValue origin fuel (skip rest)).bind fun (v, rest) =>
            let es := Value.putIn key v es
            match skip rest with
            | ',' :: rest => readEntries origin fuel es (skip rest)
            | '\x7d' :: rest => some (es, rest)
            | _ => none
        | _ => none

end

/-- The value of a JSON5 text. -/
def read (origin : Option String) (text : String) : Option Value :=
  let cs := text.toList
  (readValue origin (2 * cs.length + 2) (skip cs)).bind fun (v, rest) =>
    if (skip rest).isEmpty then some v else none

end Json5

end PushToTalk.Config
