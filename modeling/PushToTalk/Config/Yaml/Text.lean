import PushToTalk.Config.Yaml.Cursor
import PushToTalk.Text.Ranges

/-
  The texts of YAML: plain, in quotes, and in blocks.

  A line break inside a plain or quoted text is a space, and empty lines after it are line
  breaks.  A block keeps the breaks of its lines, or folds them likewise.
-/

namespace PushToTalk.Config.Yaml

/-! ## Blanks inside a text -/

/-- What stands between two words of a text. -/
structure Gap where
  /-- The blanks, as long as no line has ended; backwards. -/
  blanks : List Char
  /-- Whether blanks do not count any more, because a line ended or the text begins a new one. -/
  broken : Bool
  /-- Whether the line ended with a break that counts as a space. -/
  folded : Bool
  /-- Empty lines after it. -/
  empties : Nat
  deriving Repr

namespace Gap

def none : Gap := ⟨[], false, false, 0⟩

/-- What a gap means for the text, backwards. -/
def value (g : Gap) : List Char :=
  if g.broken then
    (if g.empties = 0 && g.folded then [' '] else List.replicate g.empties '\n')
  else g.blanks

/-- Takes in blanks and line ends; no tab may stand left of `indent` in a new line. -/
def take (indent : Int) : Nat → Gap → Cursor → Option (Gap × Cursor)
  | 0, g, p => some (g, p)
  | fuel + 1, g, p =>
    match p.rest with
    | [] => some (g, p)
    | c :: _ =>
      if isBlank c then
        if g.broken then
          if c == '\t' && (p.column : Int) < indent then Option.none else take indent fuel g p.skip
        else take indent fuel { g with blanks := c :: g.blanks } p.skip
      else if isBreak c then
        if g.broken then take indent fuel { g with empties := g.empties + 1 } p.skipBreak
        else take indent fuel { g with blanks := [], broken := true, folded := true } p.skipBreak
      else some (g, p)

end Gap

/-! ## Plain texts -/

/-- The characters of a plain text up to the next blank or sign. -/
def plainRun (flow : Bool) : List Char → List Char
  | [] => []
  | c :: rest =>
    if isBlank c || isBreak c then []
    else if c == ':' && (beginsBlank rest || (flow && (rest.head?.map isFlow).getD false)) then []
    else if flow && isFlow c then []
    else c :: plainRun flow rest

/-- Reads a plain text, `value` of which was read before, backwards. Gives the text and whether a
line ended behind it. -/
def readPlain (flow : Bool) (indent : Int) : Nat → List Char → Gap → Cursor →
    Option (List Char × Bool × Cursor)
  | 0, _, _, _ => none
  | fuel + 1, value, gap, p =>
    if p.atMark || p.rest.head? == some '#' then some (value.reverse, gap.broken, p)
    else
      let run := plainRun flow p.rest
      let p := p.skipMany run.length
      let (value, gap) := if run.isEmpty then (value, gap)
        else (run.reverse ++ (gap.value ++ value), Gap.none)
      if p.rest.isEmpty || !beginsBlank p.rest then some (value.reverse, gap.broken, p)
      else
        (gap.take indent (p.rest.length + 1) p).bind fun (gap, p) =>
          if !flow && (p.column : Int) < indent then some (value.reverse, gap.broken, p)
          else readPlain flow indent fuel value gap p

/-! ## Texts in quotes -/

/-- The character that a letter after a backslash stands for. -/
def escaped? : Char → Option Char
  | '0' => some '\x00'
  | 'a' => some '\x07'
  | 'b' => some '\x08'
  | 't' => some '\t'
  | '\t' => some '\t'
  | 'n' => some '\n'
  | 'v' => some '\x0b'
  | 'f' => some '\x0c'
  | 'r' => some '\r'
  | 'e' => some '\x1b'
  | ' ' => some ' '
  | '"' => some '"'
  | '\'' => some '\''
  | '\\' => some '\\'
  | 'N' => some '\u0085'
  | '_' => some '\u00a0'
  | 'L' => some '\u2028'
  | 'P' => some '\u2029'
  | _ => none

/-- The character that so many hexadecimal digits stand for. -/
def coded? (count : Nat) (cs : List Char) : Option Char :=
  let ds := cs.take count
  if ds.length = count && ds.all fun d => (Text.hexDigit? d).isSome then
    (if (Text.hexValue ds).isValidChar then some (Char.ofNat (Text.hexValue ds)) else none)
  else none

/-- How many digits a code has after its letter. -/
def codeLength? : Char → Option Nat
  | 'x' => some 2
  | 'u' => some 4
  | 'U' => some 8
  | _ => none

/-- Reads a text in quotes from behind the first quote, `value` of which was read before,
backwards. -/
def readQuoted (quote : Char) : Nat → List Char → Cursor → Option (List Char × Cursor)
  | 0, _, _ => none
  | fuel + 1, value, p =>
    let blanks (g : Gap) (p : Cursor) : Option (List Char × Cursor) :=
      (g.take (-1) (p.rest.length + 1) p).bind fun (gap, p) =>
        if p.atMark then none else readQuoted quote fuel (gap.value ++ value) p
    match p.rest with
    | [] => none
    | c :: rest =>
      if c == quote then
        if quote == '\'' && rest.head? == some '\'' then
          readQuoted quote fuel ('\'' :: value) p.skip.skip
        else some (value.reverse, p.skip)
      else if c == '\\' && quote == '"' then
        match rest with
        | [] => none
        | e :: digits =>
          if isBreak e then blanks { Gap.none with broken := true } p.skip.skipBreak
          else
            match escaped? e, codeLength? e with
            | some d, _ => readQuoted quote fuel (d :: value) p.skip.skip
            | none, some n =>
              (coded? n digits).bind fun d =>
                readQuoted quote fuel (d :: value) (p.skipMany (n + 2))
            | none, none => none
      else if isBlank c || isBreak c then blanks Gap.none p
      else readQuoted quote fuel (c :: value) p.skip

/-! ## Blocks of lines -/

/-- How the breaks at the end of a block are kept. -/
inductive Chomp
  | strip
  | clip
  | keep
  deriving DecidableEq, Repr

/-- What stands behind the sign that begins a block: what to keep, and how far it is indented. -/
def readHeader (p : Cursor) : Option (Chomp × Nat × Cursor) :=
  let chomp? : Char → Option Chomp := fun c =>
    if c == '+' then some .keep else if c == '-' then some .strip else none
  let digit? : Char → Option Nat := fun c =>
    if '0' ≤ c && c ≤ '9' then some (c.toNat - 48) else none
  let (chomp, increment, used) : Chomp × Option Nat × Nat := match p.rest with
    | a :: rest =>
      match chomp? a with
      | some chomp =>
        match rest.head?.bind digit? with
        | some d => (chomp, some d, 2)
        | none => (chomp, none, 1)
      | none =>
        match digit? a with
        | some d =>
          match rest.head?.bind chomp? with
          | some chomp => (chomp, some d, 2)
          | none => (.clip, some d, 1)
        | none => (.clip, none, 0)
    | [] => (.clip, none, 0)
  let p := (p.skipMany used).skipWhile isBlank
  let p := if p.rest.head? == some '#' then p.skipWhile fun c => !isBreak c else p
  if increment == some 0 || !beginsBreak p.rest then none
  else some (chomp, increment.getD 0, if p.rest.isEmpty then p else p.skipBreak)

/-- Skips the indentation of the lines of a block, and empty lines, of which it gives the number.
With an `indent` of zero every indentation counts, and the widest one is given too. -/
def skipIndent (indent : Nat) : Nat → Nat → Nat → Cursor → Option (Nat × Nat × Cursor)
  | 0, _, _, _ => none
  | fuel + 1, widest, empties, p =>
    let inside (p : Cursor) : Bool := indent == 0 || p.column < indent
    let spaces := (p.rest.takeWhile (· == ' ')).length
    let p := p.skipMany (if indent = 0 then spaces else min spaces (indent - p.column))
    let widest := max widest p.column
    match p.rest with
    | [] => some (empties, widest, p)
    | c :: _ =>
      if c == '\t' && inside p then none
      else if isBreak c then skipIndent indent fuel widest (empties + 1) p.skipBreak
      else some (empties, widest, p)

/-- The lines of a block. -/
structure Lines where
  /-- Each line with the number of empty lines before it. -/
  lines : List (Nat × List Char)
  /-- Empty lines after the last one. -/
  empties : Nat
  /-- Whether the last line ended with a break. -/
  ended : Bool
  deriving Repr

/-- Reads the lines of a block. -/
def readLines (indent : Nat) : Nat → Nat → Cursor → Option (Lines × Cursor)
  | 0, _, _ => none
  | fuel + 1, empties, p =>
    if p.column != indent || p.rest.isEmpty then some (⟨[], empties, true⟩, p)
    else
      let line := p.rest.takeWhile fun c => !isBreak c
      let p := p.skipMany line.length
      if p.rest.isEmpty then some (⟨[(empties, line)], 0, false⟩, p)
      else
        (skipIndent indent (p.rest.length + 1) 0 0 p.skipBreak).bind fun (more, _, p) =>
          (readLines indent fuel more p).map fun (b, p) =>
            ({ b with lines := (empties, line) :: b.lines }, p)

/-- Whether a line begins with a blank, so that it is not folded. -/
def isSpaced (line : List Char) : Bool := (line.head?.map isBlank).getD false

/-- The text of the lines of a block after the first one, `before` being the line before them. -/
def joinLines (literal : Bool) (before : List Char) : List (Nat × List Char) → List Char
  | [] => []
  | (empties, line) :: rest =>
    let between :=
      if !literal && !isSpaced before && !isSpaced line then
        (if empties = 0 then [' '] else List.replicate empties '\n')
      else '\n' :: List.replicate empties '\n'
    between ++ line ++ joinLines literal line rest

/-- The text of a block. -/
def Lines.text (b : Lines) (literal : Bool) (chomp : Chomp) : List Char :=
  let body := match b.lines with
    | [] => []
    | (empties, line) :: rest =>
      List.replicate empties '\n' ++ line ++ joinLines literal line rest
  let final := if chomp != .strip && b.ended && !b.lines.isEmpty then ['\n'] else []
  body ++ final ++ if chomp == .keep then List.replicate b.empties '\n' else []

/-- Reads a block from behind its sign, in a surrounding that is indented by `outer`. -/
def readBlock (literal : Bool) (outer : Int) (p : Cursor) : Option (List Char × Cursor) :=
  (readHeader p).bind fun (chomp, increment, p) =>
    let given : Nat := if increment = 0 then 0
      else if 0 ≤ outer then outer.toNat + increment else increment
    (skipIndent given (p.rest.length + 1) 0 0 p).bind fun (empties, widest, p) =>
      let indent := if given = 0 then max (max widest (outer + 1).toNat) 1 else given
      (readLines indent (p.rest.length + 1) empties p).map fun (b, p) => (b.text literal chomp, p)

end PushToTalk.Config.Yaml
