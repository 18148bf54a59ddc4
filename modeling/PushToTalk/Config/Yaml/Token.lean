import PushToTalk.Config.Yaml.Text

/-
  The tokens of YAML.

  Indentation becomes tokens that begin and end lists and tables.  That a text is a key is only
  known when the colon behind it comes: where a key may begin a slot is kept, and the colon puts
  the token for a key, and perhaps the beginning of a table, into it.
-/

namespace PushToTalk.Config.Yaml

/-- A token. -/
inductive Token
  | directive
  | documentStart
  | documentEnd
  /-- Indentation begins a list. -/
  | listStart
  /-- Indentation begins a table. -/
  | tableStart
  /-- Indentation ends a list or a table. -/
  | blockEnd
  | openBracket
  | closeBracket
  | openBrace
  | closeBrace
  | comma
  | item
  | key
  | value
  | anchor (name : List Char)
  | alias (name : List Char)
  | tag (name : List Char)
  /-- A text; `plain` if it has neither quotes nor a sign of a block. -/
  | text (value : List Char) (plain : Bool)
  deriving DecidableEq, Repr

/-- A place where a key may begin. -/
structure Slot where
  /-- Tokens in front of it. -/
  count : Nat
  /-- Whether only a key may stand there. -/
  required : Bool
  offset : Nat
  line : Nat
  column : Nat
  deriving Repr

/-- What has been scanned of a text. -/
structure Scan where
  place : Cursor
  /-- The tokens so far, backwards. -/
  tokens : List Token
  /-- The columns of the lists and tables that have begun, the innermost first. -/
  indents : List Nat
  /-- The open slot of each bracket and brace, the innermost first, and of the lines around. -/
  slots : List (Option Slot)
  /-- Whether a key may begin here. -/
  mayKey : Bool
  /-- The place right behind a text in quotes. -/
  behindQuote : Option Nat
  deriving Repr

namespace Scan

def start (text : List Char) : Scan where
  place := ⟨text, 0, 0, 0⟩
  tokens := []
  indents := []
  slots := [none]
  mayKey := true
  behindQuote := none

/-! ## Parts -/

/-- Whether a bracket or brace is open. -/
def inFlow (s : Scan) : Bool := 1 < s.slots.length

/-- The column of the innermost list or table; -1 outside all of them. -/
def indent (s : Scan) : Int := (s.indents.head?.map Int.ofNat).getD (-1)

def emit (s : Scan) (t : Token) : Scan := { s with tokens := t :: s.tokens }

/-- Emits a token that takes so many characters. -/
def sign (s : Scan) (t : Token) (length : Nat) : Scan :=
  { s.emit t with place := s.place.skipMany length }

def setSlot (s : Scan) (slot : Option Slot) : Scan := { s with slots := slot :: s.slots.drop 1 }

/-- The open slot. -/
def slot? (s : Scan) : Option Slot := (s.slots.head?).join

/-- Puts a token in front of those that came after the first `count`. -/
def insert (s : Scan) (count : Nat) (t : Token) : Scan :=
  let later := s.tokens.length - count
  { s with tokens := s.tokens.take later ++ t :: s.tokens.drop later }

/-! ## Slots -/

/-- Gives the open slot up, unless it needs a key. -/
def dropSlot (s : Scan) : Option Scan :=
  if (s.slot?.map Slot.required).getD false then none else some (s.setSlot none)

/-- Opens a slot if a key may begin here. -/
def openSlot (s : Scan) : Option Scan :=
  if s.mayKey then
    s.dropSlot.map fun s =>
      s.setSlot (some
        { count := s.tokens.length
          required := s.inFlow && s.indent == (s.place.column : Int)
          offset := s.place.offset
          line := s.place.line
          column := s.place.column })
  else some s

/-- A key has to end on its line, within so many characters. -/
def keyLimit : Nat := 1024

/-- Gives up the slots that can no longer become keys. -/
def dropStale (s : Scan) : Option Scan :=
  let stale (k : Slot) : Bool := k.line < s.place.line || k.offset + keyLimit < s.place.offset
  if s.slots.any fun k => (k.map fun k => stale k && k.required).getD false then none
  else some { s with slots := s.slots.map fun k => k.filter fun k => !stale k }

/-! ## Indentation -/

/-- The columns that are left after those right of `column`, and how many those were. -/
def unrolled (column : Int) : List Nat → Nat × List Nat
  | [] => (0, [])
  | c :: rest =>
    if column < (c : Int) then ((unrolled column rest).1 + 1, (unrolled column rest).2)
    else (0, c :: rest)

/-- Ends the lists and tables that are indented further than `column`. -/
def unroll (s : Scan) (column : Int) : Scan :=
  if s.inFlow then s
  else
    let (ends, indents) := unrolled column s.indents
    { s with tokens := List.replicate ends .blockEnd ++ s.tokens, indents := indents }

/-- Begins a list or table at `column` if that is further in; its token stands behind the first
`count` tokens. -/
def roll (s : Scan) (column count : Nat) (t : Token) : Scan :=
  if s.inFlow || (column : Int) ≤ s.indent then s
  else { s.insert count t with indents := column :: s.indents }

/-- Begins a list or table here. -/
def rollHere (s : Scan) (t : Token) : Scan := s.roll s.place.column s.tokens.length t

/-! ## Between tokens -/

/-- Skips blanks, comments and line ends. -/
def skipGap : Nat → Scan → Scan
  | 0, s => s
  | fuel + 1, s =>
    match s.place.rest with
    | ' ' :: _ => skipGap fuel { s with place := s.place.skip }
    | '\t' :: _ =>
      if s.inFlow || !s.mayKey then skipGap fuel { s with place := s.place.skip } else s
    | '#' :: _ => skipGap fuel { s with place := s.place.skipWhile fun c => !isBreak c }
    | c :: _ =>
      if isBreak c then
        skipGap fuel { s with place := s.place.skipBreak, mayKey := s.mayKey || !s.inFlow }
      else s
    | [] => s

/-! ## Signs -/

/-- A mark that begins or ends a document. -/
def readMark (s : Scan) : Option Scan :=
  let t : Token := if s.place.rest.head? == some '-' then .documentStart else .documentEnd
  (s.unroll (-1)).dropSlot.map fun s => { s with mayKey := false }.sign t 3

/-- A line that begins with a percent sign. -/
def readDirective (s : Scan) : Option Scan :=
  (s.unroll (-1)).dropSlot.map fun s =>
    { s.emit .directive with mayKey := false, place := s.place.skipWhile fun c => !isBreak c }

def openFlow (s : Scan) (t : Token) : Option Scan :=
  s.openSlot.map fun s => { s with slots := none :: s.slots, mayKey := true }.sign t 1

def closeFlow (s : Scan) (t : Token) : Option Scan :=
  s.dropSlot.map fun s =>
    { s with slots := if s.inFlow then s.slots.drop 1 else s.slots, mayKey := false }.sign t 1

def readComma (s : Scan) : Option Scan :=
  s.dropSlot.map fun s => { s with mayKey := true }.sign .comma 1

/-- A hyphen that begins an item. -/
def readItem (s : Scan) : Option Scan :=
  if s.inFlow || !s.mayKey then none
  else (s.rollHere .listStart).dropSlot.map fun s => { s with mayKey := true }.sign .item 1

/-- A question mark that begins a key. -/
def readKey (s : Scan) : Option Scan :=
  if !s.inFlow && !s.mayKey then none
  else
    (s.rollHere .tableStart).dropSlot.map fun s => { s with mayKey := !s.inFlow }.sign .key 1

/-- A colon that begins a value. What stands in the open slot is its key. -/
def readColon (s : Scan) : Option Scan :=
  match s.slot? with
  | some k =>
    let s := (s.insert k.count .key).roll k.column k.count .tableStart
    some ({ s.setSlot none with mayKey := false }.sign .value 1)
  | none =>
    if !s.inFlow && !s.mayKey then none
    else some ({ s.rollHere .tableStart with mayKey := !s.inFlow }.sign .value 1)

/-! ## Names -/

/-- Whether a character may stand in the name of an anchor. -/
def isNameChar (c : Char) : Bool := c.isAlphanum || c == '_' || c == '-'

/-- Whether the name of an anchor may end here. -/
def endsName (cs : List Char) : Bool :=
  beginsBlank cs || (cs.head?.map fun c => "?:,]\x7d%@\x60".toList.contains c).getD false

/-- An anchor or a reference to one. -/
def readName (s : Scan) (make : List Char → Token) : Option Scan :=
  s.openSlot.bind fun s =>
    let name := (s.place.rest.drop 1).takeWhile isNameChar
    if name.isEmpty || !endsName (s.place.rest.drop (name.length + 1)) then none
    else some ({ s with mayKey := false }.sign (make name) (name.length + 1))

/-- A tag. -/
def readTag (s : Scan) : Option Scan :=
  s.openSlot.map fun s =>
    let name := s.place.rest.takeWhile fun c =>
      !isBlank c && !isBreak c && !(s.inFlow && isFlow c)
    { s with mayKey := false }.sign (.tag name) name.length

/-! ## Texts -/

/-- A text that has been read up to `p`. -/
def putText (s : Scan) (text : List Char) (plain mayKey : Bool) (p : Cursor) : Scan :=
  { s.emit (.text text plain) with place := p, mayKey := mayKey }

def readPlainText (s : Scan) : Option Scan :=
  s.openSlot.bind fun s =>
    (readPlain s.inFlow (s.indent + 1) (s.place.rest.length + 1) [] .none s.place).map
      fun (text, broken, p) => s.putText text true broken p

def readQuotedText (s : Scan) (quote : Char) : Option Scan :=
  s.openSlot.bind fun s =>
    (readQuoted quote (s.place.rest.length + 1) [] s.place.skip).map fun (text, p) =>
      { s.putText text false false p with behindQuote := some p.offset }

def readBlockText (s : Scan) (literal : Bool) : Option Scan :=
  s.openSlot.bind fun s =>
    (readBlock literal s.indent s.place.skip).map fun (text, p) => s.putText text false true p

/-! ## The whole text -/

/-- Reads the next token from its first character on. -/
def readToken (s : Scan) (c : Char) (rest : List Char) : Option Scan :=
  let blank := beginsBlank rest
  let flowNext := (rest.head?.map isFlow).getD false
  match c with
  | '[' => s.openFlow .openBracket
  | '\x7b' => s.openFlow .openBrace
  | ']' => s.closeFlow .closeBracket
  | '\x7d' => s.closeFlow .closeBrace
  | ',' => s.readComma
  | '*' => s.readName .alias
  | '&' => s.readName .anchor
  | '!' => s.readTag
  | '\'' => s.readQuotedText '\''
  | '"' => s.readQuotedText '"'
  | '%' | '@' | '\x60' => none
  | '-' => if blank then s.readItem else s.readPlainText
  | '?' => if blank then s.readKey else s.readPlainText
  | ':' =>
    if blank || (s.inFlow && (flowNext || s.behindQuote == some s.place.offset)) then s.readColon
    else s.readPlainText
  | '|' => if s.inFlow then s.readPlainText else s.readBlockText true
  | '>' => if s.inFlow then s.readPlainText else s.readBlockText false
  | _ => s.readPlainText

/-- Ends the text: what is open by indentation ends with it. -/
def finish (s : Scan) : Option (List Token) :=
  (s.unroll (-1)).dropSlot.map fun s => s.tokens.reverse

/-- Reads the tokens of a text; every token takes at least one character of `fuel`. -/
def readAll : Nat → Scan → Option (List Token)
  | 0, _ => none
  | fuel + 1, s =>
    (skipGap (s.place.rest.length + 1) s).dropStale.bind fun s =>
      let s := s.unroll s.place.column
      match s.place.rest with
      | [] => s.finish
      | c :: rest =>
        if s.place.column == 0 && c == '%' then s.readDirective.bind (readAll fuel)
        else if s.place.atMark then s.readMark.bind (readAll fuel)
        else (s.readToken c rest).bind (readAll fuel)

end Scan

/-- The tokens of a text, which ends at the first NUL. -/
def Token.scan (text : String) : Option (List Token) :=
  let cs := text.toList.takeWhile (· != '\x00')
  Scan.readAll (cs.length + 2) (.start cs)

end PushToTalk.Config.Yaml
