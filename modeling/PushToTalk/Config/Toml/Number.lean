import PushToTalk.Config.Toml.Token
import PushToTalk.Config.Value
import PushToTalk.Decimal.Nearest

/-
  The numbers of TOML.

  A number comes as a word, perhaps with a plus sign before it, a period and a word behind it, or
  a plus sign and a word behind its exponent letter.  Digits may be set apart by single
  underscores.  Whole numbers in tens have no leading zeros and stay within 64 bits; numbers in
  other bases have no sign.
-/

namespace PushToTalk.Config.Toml

namespace Number

/-! ## Runs of digits -/

/-- Whether a character is a digit of a base. -/
def isDigitOf (base : Nat) (c : Char) : Bool :=
  match Text.hexDigit? c with
  | some d => d < base
  | none => false

/-- Reads digits with underscores between them, up to the first other character; `last` is the
character before. -/
def readRun (base : Nat) (last : Char) : List Char → Option (List Char × List Char)
  | [] => if last == '_' then none else some ([], [])
  | c :: rest =>
    if isDigitOf base c then (readRun base c rest).map fun (ds, rest) => (c :: ds, rest)
    else if last == '_' then none
    else if c == '_' then readRun base c rest
    else some ([], c :: rest)

/-- Reads digits from the front of a word. -/
def readDigits (base : Nat) (zeros : Bool) (cs : List Char) : Option (List Char × List Char) :=
  match cs with
  | [] => none
  | c :: rest =>
    if !isDigitOf base c then none
    else
      (readRun base c rest).bind fun (ds, rest) =>
        if c == '0' && !ds.isEmpty && !zeros then none else some (c :: ds, rest)

/-- Takes a sign off a word. -/
def readSign (cs : List Char) : Bool × List Char :=
  match cs with
  | '-' :: rest => (true, rest)
  | _ => (false, cs)

/-! ## Whole numbers -/

/-- The number that digits of a base stand for. -/
def valueOf (base : Nat) (ds : List Char) : Nat :=
  ds.foldl (fun n c => base * n + (Text.hexDigit? c).getD 0) 0

/-- A whole number of 64 bits. -/
def bounded (n : Int) : Option Scalar :=
  if -Int.pow 2 63 ≤ n && n < Int.pow 2 63 then some (.whole n) else none

/-- Reads a word as a whole number in a base other than ten. -/
def readBased (base : Nat) (cs : List Char) : Option Scalar :=
  match readDigits base true cs with
  | some (ds, []) => bounded (valueOf base ds)
  | _ => none

/-- Reads a word as a whole number. -/
def readWhole (cs : List Char) : Option Scalar :=
  let (negative, cs) := readSign cs
  match readDigits 10 false cs with
  | some (ds, []) => bounded (if negative then -valueOf 10 ds else valueOf 10 ds)
  | _ => none

/-! ## Numbers with a fraction or an exponent -/

/-- Reads an exponent: `cs` is what the word has after its letter. -/
def readExponent (cs : List Char) (tokens : List Token) : Option (Int × List Token) :=
  let finish (negative : Bool) (cs : List Char) (tokens : List Token) : Option (Int × List Token) :=
    match readDigits 10 true cs with
    | some (ds, []) =>
      let e : Int := Text.Numeral.value ds
      some (if negative then -e else e, tokens)
    | _ => none
  match cs with
  | [] =>
    match tokens with
    | .plus :: .word w :: rest => finish false w rest
    | .word w :: rest => finish false w rest
    | _ => none
  | _ => finish (readSign cs).1 (readSign cs).2 tokens

/-- Reads a word, and the word behind a period if there is one, as a number that need not be
whole. -/
def readReal (cs : List Char) (behind : Option (List Char)) (tokens : List Token) :
    Option (Scalar × List Token) := do
  let (negative, cs) := readSign cs
  let (whole, rest) ← readDigits 10 false cs
  let (fraction, rest) ← match behind with
    | none => some ([], rest)
    | some cs => if rest.isEmpty then readDigits 10 true cs else none
  let (exponent, tokens) ← match rest with
    | [] => some ((0 : Int), tokens)
    | c :: rest => if c == 'e' || c == 'E' then readExponent rest tokens else none
  let x := (Decimal.Written.mk negative whole fraction exponent).nearest
  if x.isFinite then some (.real x, tokens) else none

/-! ## Numbers -/

/-- Reads the number that begins with a word. -/
def read (word : List Char) (tokens : List Token) : Option (Scalar × List Token) :=
  let alone (s : Option Scalar) : Option (Scalar × List Token) := s.map fun s => (s, tokens)
  match word with
  | '0' :: 'x' :: cs => alone (readBased 16 cs)
  | '0' :: 'o' :: cs => alone (readBased 8 cs)
  | '0' :: 'b' :: cs => alone (readBased 2 cs)
  | _ =>
    if word.contains 'e' || word.contains 'E' then readReal word none tokens
    else match tokens with
      | .period :: .word w :: rest => readReal word (some w) rest
      | .period :: _ => none
      | _ =>
        match String.ofList word with
        | "inf" => some (.real (1 / 0), tokens)
        | "-inf" => some (.real (-1 / 0), tokens)
        | "nan" | "-nan" => some (.real (0 / 0), tokens)
        | _ => alone (readWhole word)

end Number

end PushToTalk.Config.Toml
