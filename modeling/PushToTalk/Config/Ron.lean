import PushToTalk.Config.Value
import PushToTalk.Decimal.Nearest
import PushToTalk.Text.Ranges

/-
  Configuration in RON.

  Records stand in parentheses, perhaps with a name in front, which does not count; maps stand in
  braces, lists in brackets, and a record without names of fields is a list too.  An optional
  value is `None` or `Some` with the value in parentheses.
-/

namespace PushToTalk.Config

namespace Ron

/-! ## Between tokens -/

/-- Whether a character is blank between tokens. -/
def isGap (c : Char) : Bool := c == ' ' || c == '\n' || c == '\t' || c == '\r'

/-- The input after a comment that is `depth` comments deep, from behind its first signs. -/
def skipLong : Nat → Nat → List Char → Option (List Char)
  | 0, _, _ => none
  | _, 0, cs => some cs
  | fuel + 1, depth + 1, cs =>
    match cs with
    | '/' :: '*' :: rest => skipLong fuel (depth + 2) rest
    | '*' :: '/' :: rest => skipLong fuel depth rest
    | _ :: rest => skipLong fuel (depth + 1) rest
    | [] => none

/-- The input after blanks and comments. -/
def skipGaps : Nat → List Char → List Char
  | 0, cs => cs
  | fuel + 1, cs =>
    match cs with
    | '/' :: '/' :: rest => skipGaps fuel (rest.dropWhile (· != '\n'))
    | '/' :: '*' :: rest => ((skipLong (rest.length + 2) 1 rest).map (skipGaps fuel)).getD cs
    | c :: rest => if isGap c then skipGaps fuel rest else cs
    | [] => []

/-- The input after blanks and comments. -/
def skip (cs : List Char) : List Char := skipGaps cs.length cs

/-- Whether a character may begin a name. -/
def beginsName (c : Char) : Bool := c.isAlpha || c == '_'

/-- Whether a character may stand in a name. -/
def isNameChar (c : Char) : Bool := beginsName c || Text.Numeral.isDigit c

/-! ## Numbers -/

/-- Whether a character may stand in a number with a point or an exponent. -/
def isRealChar (c : Char) : Bool :=
  Text.Numeral.isDigit c || c == '.' || c == 'e' || c == 'E' || c == '+' || c == '-'

/-- The number that digits of a base stand for, underscores left out. -/
def wholeOf? (base : Nat) (cs : List Char) : Option Nat :=
  let ds := cs.filter (· != '_')
  if ds.isEmpty then none
  else
    ds.foldlM
      (fun n c => (Text.hexDigit? c).bind fun d => if d < base then some (base * n + d) else none) 0

/-- The exponent behind its letter. -/
def exponentOf? (cs : List Char) : Option Int :=
  let (negative, ds) := match cs with
    | '-' :: ds => (true, ds)
    | '+' :: ds => (false, ds)
    | _ => (false, cs)
  let e : Int := Text.Numeral.value ds
  if ds.isEmpty || !ds.all Text.Numeral.isDigit then none else some (if negative then -e else e)

/-- The number that a spelling with a point or an exponent stands for, behind its sign. -/
def realOf? (negative : Bool) (cs : List Char) : Option Float :=
  let whole := cs.takeWhile Text.Numeral.isDigit
  let rest := cs.drop whole.length
  let (fraction, rest) := match rest with
    | '.' :: rest => (rest.takeWhile Text.Numeral.isDigit, rest.dropWhile Text.Numeral.isDigit)
    | _ => ([], rest)
  if whole.isEmpty && fraction.isEmpty then none
  else
    (match rest with
      | [] => some 0
      | c :: rest => if c == 'e' || c == 'E' then exponentOf? rest else none).map fun e =>
      (Decimal.Written.mk negative whole fraction e).nearest

/-- Reads a number: one with a point or an exponent, or a whole one. Whole numbers that do not fit
in 64 bits count as reals. -/
def readNumber (cs : List Char) : Option (Scalar × List Char) :=
  let (sign, body) := match cs with
    | '-' :: rest => (some true, rest)
    | '+' :: rest => (some false, rest)
    | _ => (none, cs)
  let negative := sign.getD false
  let based (base : Nat) (ds : List Char) : Option (Scalar × List Char) :=
    let digits := ds.takeWhile fun c => isNameChar c
    (wholeOf? base digits).bind fun n =>
      let i : Int := if negative then -n else n
      let rest := ds.drop digits.length
      if -Int.pow 2 63 ≤ i && i < Int.pow 2 63 then some (.whole i, rest)
      else some (.real (Float.ofInt i), rest)
  match body with
  | '0' :: 'x' :: ds => based 16 ds
  | '0' :: 'o' :: ds => based 8 ds
  | '0' :: 'b' :: ds => based 2 ds
  | _ =>
    let real := body.takeWhile isRealChar
    if real.any fun c => c == '.' || c == 'e' || c == 'E' then
      (realOf? negative real).map fun x => (.real x, body.drop real.length)
    else based 10 body

/-! ## Texts -/

/-- Reads what a backslash stands for. -/
def readEscape (cs : List Char) : Option (List Char × List Char) :=
  match cs with
  | '"' :: rest => some (['"'], rest)
  | '\'' :: rest => some (['\''], rest)
  | '\\' :: rest => some (['\\'], rest)
  | 'n' :: rest => some (['\n'], rest)
  | 'r' :: rest => some (['\r'], rest)
  | 't' :: rest => some (['\t'], rest)
  | 'x' :: a :: b :: rest =>
    match Text.hexDigit? a, Text.hexDigit? b with
    | some m, some n => some ([Char.ofNat (16 * m + n)], rest)
    | _, _ => none
  | 'u' :: '\x7b' :: rest =>
    let ds := rest.takeWhile fun c => (Text.hexDigit? c).isSome
    match rest.drop ds.length with
    | '\x7d' :: rest =>
      if ds.isEmpty || 6 < ds.length || !(Text.hexValue ds).isValidChar then none
      else some ([Char.ofNat (Text.hexValue ds)], rest)
    | _ => none
  | c :: rest => if isGap c then some ([], rest.dropWhile isGap) else none
  | [] => none

/-- Reads a text from behind its first quote. -/
def readText : Nat → List Char → Option (List Char × List Char)
  | 0, _ => none
  | fuel + 1, cs =>
    match cs with
    | [] => none
    | '"' :: rest => some ([], rest)
    | '\\' :: rest =>
      (readEscape rest).bind fun (front, rest) =>
        (readText fuel rest).map fun (cs, rest) => (front ++ cs, rest)
    | c :: rest => (readText fuel rest).map fun (cs, rest) => (c :: cs, rest)

/-- Reads a raw text from behind its first quote, which ends with `close`. -/
def readRaw (close : List Char) : List Char → Option (List Char × List Char)
  | [] => none
  | c :: rest =>
    if close.isPrefixOf (c :: rest) then some ([], (c :: rest).drop close.length)
    else (readRaw close rest).map fun (cs, rest) => (c :: cs, rest)

/-- Reads a raw text from behind its letter. -/
def readRawText (cs : List Char) : Option (List Char × List Char) :=
  let signs := cs.takeWhile (· == '#')
  match cs.drop signs.length with
  | '"' :: rest => readRaw ('"' :: signs) rest
  | _ => none

/-- Reads a single character from behind its first quote. -/
def readChar (cs : List Char) : Option (List Char × List Char) :=
  let close (c : List Char) (rest : List Char) : Option (List Char × List Char) :=
    match rest with
    | '\'' :: rest => some (c, rest)
    | _ => none
  match cs with
  | '\\' :: rest => (readEscape rest).bind fun (c, rest) => close c rest
  | '\'' :: _ => none
  | c :: rest => close [c] rest
  | [] => none

/-! ## Values -/

/-- The key that a value is: a text. -/
def keyOf? : Value → Option String
  | .scalar _ (.text s) => some s
  | _ => none

/-- Reads the name of a field and the colon behind it. -/
def readField (cs : List Char) : Option (String × List Char) :=
  match cs with
  | c :: _ =>
    if !beginsName c then none
    else
      let name := cs.takeWhile isNameChar
      match skip (cs.drop name.length) with
      | ':' :: rest => some (String.ofList name, rest)
      | _ => none
  | [] => none

/-- Reads a word that is a value by itself. -/
def wordValue? (word : String) : Option Scalar :=
  match word with
  | "true" => some (.truth true)
  | "false" => some (.truth false)
  | "None" => some .nothing
  | "inf" => some (.real (1 / 0))
  | "NaN" => some (.real (0 / 0))
  | _ => none

mutual

/-- Reads a value. Every character takes at most two of `fuel`. -/
def readValue (origin : Option String) : Nat → List Char → Option (Value × List Char)
  | 0, _ => none
  | fuel + 1, cs =>
    let scalar (r : Option (Scalar × List Char)) : Option (Value × List Char) :=
      r.map fun (s, rest) => (.scalar origin s, rest)
    let text (r : Option (List Char × List Char)) : Option (Value × List Char) :=
      r.map fun (t, rest) => (.scalar origin (.text (String.ofList t)), rest)
    match cs with
    | [] => none
    | '"' :: rest => text (readText (rest.length + 1) rest)
    | 'r' :: '"' :: rest => text (readRawText ('"' :: rest))
    | 'r' :: '#' :: rest => text (readRawText ('#' :: rest))
    | '\'' :: rest => text (readChar rest)
    | '(' :: rest => readRecord origin fuel (skip rest)
    | '[' :: rest =>
      (readItems origin fuel ']' (skip rest)).map fun (vs, rest) => (.list origin vs, rest)
    | '\x7b' :: rest =>
      (readEntries origin fuel [] (skip rest)).map fun (es, rest) => (.table origin es, rest)
    | c :: _ =>
      if !beginsName c then scalar (readNumber cs)
      else
        let word := cs.takeWhile isNameChar
        let rest := cs.drop word.length
        match wordValue? (String.ofList word), skip rest with
        | some s, _ => some (.scalar origin s, rest)
        | none, '(' :: inner =>
          if String.ofList word == "Some" then
            (readValue origin fuel (skip inner)).bind fun (v, rest) =>
              match skip rest with
              | ')' :: rest => some (v, rest)
              | _ => none
          else readRecord origin fuel (skip inner)
        | none, _ => some (.scalar origin .nothing, rest)

/-- Reads a record from behind its parenthesis: with names of fields a table, without them a list,
and nothing if it is empty. -/
def readRecord (origin : Option String) : Nat → List Char → Option (Value × List Char)
  | 0, _ => none
  | fuel + 1, cs =>
    match cs with
    | ')' :: rest => some (.scalar origin .nothing, rest)
    | _ =>
      if (readField cs).isSome then
        (readFields origin fuel [] cs).map fun (es, rest) => (.table origin es, rest)
      else (readItems origin fuel ')' cs).map fun (vs, rest) => (.list origin vs, rest)

/-- Reads the fields of a record up to its parenthesis, `es` having come before. -/
def readFields (origin : Option String) : Nat → List (String × Value) → List Char →
    Option (List (String × Value) × List Char)
  | 0, _, _ => none
  | fuel + 1, es, cs =>
    match cs with
    | ')' :: rest => some (es, rest)
    | _ =>
      (readField cs).bind fun (key, rest) =>
        (readValue origin fuel (skip rest)).bind fun (v, rest) =>
          let es := Value.putIn key v es
          match skip rest with
          | ',' :: rest => readFields origin fuel es (skip rest)
          | ')' :: rest => some (es, rest)
          | _ => none

/-- Reads the items of a list up to the sign that closes it. -/
def readItems (origin : Option String) : Nat → Char → List Char → Option (List Value × List Char)
  | 0, _, _ => none
  | fuel + 1, close, cs =>
    if cs.head? == some close then some ([], cs.drop 1)
    else
      (readValue origin fuel cs).bind fun (v, rest) =>
        match skip rest with
        | ',' :: rest => (readItems origin fuel close (skip rest)).map fun (vs, rest) => (v :: vs, rest)
        | rest => if rest.head? == some close then some ([v], rest.drop 1) else none

/-- Reads the entries of a map up to its brace, `es` having come before. -/
def readEntries (origin : Option String) : Nat → List (String × Value) → List Char →
    Option (List (String × Value) × List Char)
  | 0, _, _ => none
  | fuel + 1, es, cs =>
    match cs with
    | '\x7d' :: rest => some (es, rest)
    | _ =>
      (readValue origin fuel cs).bind fun (k, rest) =>
        match keyOf? k, skip rest with
        | some key, ':' :: rest =>
          (readValue origin fuel (skip rest)).bind fun (v, rest) =>
            let es := Value.putIn key v es
            match skip rest with
            | ',' :: rest => readEntries origin fuel es (skip rest)
            | '\x7d' :: rest => some (es, rest)
            | _ => none
        | _, _ => none

end

/-- The value of a RON text. -/
def read (origin : Option String) (text : String) : Option Value :=
  let cs := text.toList
  (readValue origin (2 * cs.length + 2) (skip cs)).bind fun (v, rest) =>
    if (skip rest).isEmpty then some v else none

end Ron

end PushToTalk.Config
