import PushToTalk.Config.Toml.Token
import PushToTalk.Text.Numeral

/-
  The dates and times of TOML.

  A date, a time, or both with an offset: `1979-05-27T07:32:00.5-07:00`.  Configuration has no
  use for dates as such; one is written again in its plainest form and counts as a text.
-/

namespace PushToTalk.Config.Toml

/-- A day of a year. -/
structure Day where
  year : Nat
  month : Nat
  day : Nat
  deriving Repr

/-- A time of day. -/
structure Clock where
  hour : Nat
  minute : Nat
  second : Nat
  /-- The digits after the point that count, zeros at the end left out. -/
  fraction : List Char
  deriving Repr

/-- How far a clock is from universal time. -/
inductive Offset
  | universal
  | hours (behind : Bool) (hours minutes : Nat)
  deriving Repr

/-- A date, a time, or both. -/
structure Date where
  day : Option Day
  clock : Option Clock
  offset : Option Offset
  deriving Repr

namespace Date

/-! ## Reading -/

/-- Reads a number of exactly so many digits. -/
def readNumber (count : Nat) (cs : List Char) : Option (Nat × List Char) :=
  let ds := cs.take count
  if ds.length == count && ds.all Text.Numeral.isDigit then
    some (Text.Numeral.value ds, cs.drop count)
  else none

/-- Reads one given character. -/
def readMark (mark : Char) (cs : List Char) : Option (List Char) :=
  match cs with
  | c :: rest => if c == mark then some rest else none
  | [] => none

/-- Reads `1979-05-27`. -/
def readDay (cs : List Char) : Option (Day × List Char) := do
  let (year, cs) ← readNumber 4 cs
  let cs ← readMark '-' cs
  let (month, cs) ← readNumber 2 cs
  let cs ← readMark '-' cs
  let (day, cs) ← readNumber 2 cs
  if 1 ≤ month && month ≤ 12 && 1 ≤ day && day ≤ 31 then some (⟨year, month, day⟩, cs) else none

/-- Reads the digits after the point of a second; nine of them count. -/
def readFraction (cs : List Char) : Option (List Char × List Char) :=
  match cs with
  | '.' :: rest =>
    let ds := rest.takeWhile Text.Numeral.isDigit
    if ds.isEmpty then none
    else
      some (((ds.take 9).reverse.dropWhile (· == '0')).reverse, rest.dropWhile Text.Numeral.isDigit)
  | _ => some ([], cs)

/-- Reads `07:32:00.5`. -/
def readClock (cs : List Char) : Option (Clock × List Char) := do
  let (hour, cs) ← readNumber 2 cs
  let cs ← readMark ':' cs
  let (minute, cs) ← readNumber 2 cs
  let cs ← readMark ':' cs
  let (second, cs) ← readNumber 2 cs
  let (fraction, cs) ← readFraction cs
  if hour ≤ 24 && minute ≤ 59 && second ≤ 59 then some (⟨hour, minute, second, fraction⟩, cs)
  else none

/-- Reads `Z` or `-07:00`, up to the end. -/
def readOffset (cs : List Char) : Option (Option Offset) :=
  match cs with
  | [] => some none
  | ['Z'] | ['z'] => some (some .universal)
  | c :: rest =>
    if c == '+' || c == '-' then do
      let (hours, rest) ← readNumber 2 rest
      let rest ← readMark ':' rest
      let (minutes, rest) ← readNumber 2 rest
      if rest.isEmpty then some (some (.hours (c == '-' && hours != 0) hours minutes)) else none
    else none

/-- Reads a date, a time, or both; only both together may have an offset. -/
def ofSpelling (cs : List Char) : Option Date :=
  if cs[2]? == some ':' then
    (readClock cs).bind fun (clock, rest) =>
      if rest.isEmpty then some ⟨none, some clock, none⟩ else none
  else
    (readDay cs).bind fun (day, rest) =>
      match rest with
      | [] => some ⟨some day, none, none⟩
      | c :: rest =>
        if c == 'T' || c == 't' || c == ' ' then do
          let (clock, rest) ← readClock rest
          let offset ← readOffset rest
          some ⟨some day, some clock, offset⟩
        else none

/-! ## Writing -/

/-- A number with zeros in front up to a width. -/
def padded (width n : Nat) : List Char :=
  let ds := Text.Numeral.digits n
  List.replicate (width - ds.length) '0' ++ ds

def writeDay (d : Day) : List Char :=
  padded 4 d.year ++ '-' :: (padded 2 d.month ++ '-' :: padded 2 d.day)

def writeClock (c : Clock) : List Char :=
  padded 2 c.hour ++ ':' :: (padded 2 c.minute ++ ':' :: padded 2 c.second)
    ++ if c.fraction.isEmpty then [] else '.' :: c.fraction

def writeOffset : Offset → List Char
  | .universal => ['Z']
  | .hours behind hours minutes =>
    (if behind then '-' else '+') :: (padded 2 hours ++ ':' :: padded 2 minutes)

/-- The plainest form of a date. -/
def text (d : Date) : String :=
  let day := (d.day.map writeDay).getD []
  let between := if d.day.isSome && d.clock.isSome then ['T'] else []
  let clock := (d.clock.map writeClock).getD []
  String.ofList (day ++ between ++ clock ++ (d.offset.map writeOffset).getD [])

/-! ## Tokens -/

/-- Takes up a word if it comes behind the given token. -/
def takeBehind (mark : Token) (sign : Char) (spelling : List Char) (tokens : List Token) :
    Option (List Char × List Token) :=
  match tokens with
  | t :: rest =>
    if t == mark then
      match rest with
      | .word w :: rest => some (spelling ++ sign :: w, rest)
      | _ => none
    else some (spelling, tokens)
  | [] => some (spelling, tokens)

/-- Takes up minutes, seconds and what may follow them. -/
def takeClock (spelling : List Char) (tokens : List Token) : Option (List Char × List Token) :=
  match tokens with
  | .word minutes :: .colon :: .word seconds :: rest =>
    ((takeBehind .period '.' (spelling ++ minutes ++ ':' :: seconds) rest).bind
      fun (spelling, rest) => takeBehind .plus '+' spelling rest).bind
      fun (spelling, rest) => takeBehind .colon ':' spelling rest
  | _ => none

/-- Puts the spelling of a date together again that begins with the word `first`. -/
def gather (first : List Char) (tokens : List Token) : Option (List Char × List Token) :=
  let (spelling, tokens) := match tokens with
    | .gap [' '] :: .word hour :: rest => (first ++ ' ' :: hour, rest)
    | _ => (first, tokens)
  match tokens with
  | .colon :: rest => takeClock (spelling ++ [':']) rest
  | _ => some (spelling, tokens)

/-- Reads the date that begins with a word. -/
def read (first : List Char) (tokens : List Token) : Option (String × List Token) :=
  (gather first tokens).bind fun (spelling, tokens) =>
    (ofSpelling spelling).map fun d => (d.text, tokens)

/-- Reads the time that begins with a word; `tokens` begin after the colon behind it. -/
def readTime (first : List Char) (tokens : List Token) : Option (String × List Token) :=
  (takeClock (first ++ [':']) tokens).bind fun (spelling, tokens) =>
    (ofSpelling spelling).map fun d => (d.text, tokens)

end Date

end PushToTalk.Config.Toml
