import PushToTalk.Json.Error

/-
  The tokens of JSON: blanks, words, texts and numbers.

  Each reader takes the input as a list of characters and gives back what it read together with
  the rest, or a `Slip`.  The rest is always a suffix of the input; the lemmas named `…_shorter`
  say so in the form in which the readers above need it to terminate.
-/

namespace PushToTalk.Json

/-- What a reader gives: a value and the unread rest, or a slip. -/
abbrev Read (α : Type) := Except Slip (α × List Char)

/-- A failure noticed with nothing of `rest` taken in. -/
def slip {α : Type} (cause : Cause) (rest : List Char) : Except Slip α :=
  .error ⟨cause, rest, 0, []⟩

/-- A failure noticed at the next byte, which counts as taken in; at the end of the input there
is none. -/
def slipPast {α : Type} (cause : Cause) (rest : List Char) : Except Slip α :=
  .error ⟨cause, rest, 1, []⟩

/-! ## Blanks -/

/-- Space, line feed, tab and carriage return are blank between tokens; nothing else is. -/
def isGap (c : Char) : Bool := c == ' ' || c == '\n' || c == '\t' || c == '\r'

/-- The input after the blanks in front of it. -/
def skipGaps (s : List Char) : List Char := s.dropWhile isGap

/-- Dropping characters makes a text no longer. -/
theorem length_dropWhile_le {α : Type} (p : α → Bool) (s : List α) :
    (s.dropWhile p).length ≤ s.length := by
  induction s with
  | nil => simp
  | cons c rest ih =>
    rw [List.dropWhile_cons]
    split
    · exact Nat.le_succ_of_le ih
    · exact Nat.le_refl _

/-- Behind blanks no more is left than there was. -/
theorem skipGaps_shorter (s : List Char) : (skipGaps s).length ≤ s.length :=
  length_dropWhile_le isGap s

/-! ## Words -/

/-- Reads the given characters one after the other. -/
def readWord : List Char → List Char → Except Slip (List Char)
  | [], rest => .ok rest
  | _ :: _, [] => slip .endInValue []
  | w :: word, c :: rest => if c == w then readWord word rest else slipPast .wantWord (c :: rest)

/-- Behind a word no more is left than there was. -/
theorem readWord_shorter {word s rest : List Char} (h : readWord word s = .ok rest) :
    rest.length ≤ s.length := by
  induction word generalizing s with
  | nil => cases h; exact Nat.le_refl _
  | cons w word ih =>
    cases s with
    | nil => cases h
    | cons c s =>
      rw [readWord] at h
      split at h
      · exact Nat.le_succ_of_le (ih h)
      · cases h

/-! ## Texts -/

/-- Takes `count` bytes off the input; a character that reaches beyond them is left whole and
counted in. -/
def dropBytes : Nat → List Char → List Char × Nat
  | 0, rest => (rest, 0)
  | _ + 1, [] => ([], 0)
  | count + 1, c :: rest =>
    if c.utf8Size ≤ count + 1 then dropBytes (count + 1 - c.utf8Size) rest
    else (c :: rest, count + 1)
termination_by _ s => s.length

/-- Reads the four hexadecimal digits of an escape. -/
def readHex (s : List Char) : Read Nat :=
  match s with
  | a :: b :: c :: d :: rest =>
    match Text.hexDigit? a, Text.hexDigit? b, Text.hexDigit? c, Text.hexDigit? d with
    | some a', some b', some c', some d' =>
      .ok (4096 * a' + 256 * b' + 16 * c' + d', rest)
    | _, _, _, _ =>
      let (rest', past) := dropBytes 4 s
      .error ⟨.badEscape, rest', past, []⟩
  | _ =>
    if 4 ≤ (Text.utf8 s).length then
      let (rest', past) := dropBytes 4 s
      .error ⟨.badEscape, rest', past, []⟩
    else slip .endInText []

/-- Behind four hex digits no more is left than there was. -/
theorem readHex_shorter {s rest : List Char} {n : Nat} (h : readHex s = .ok (n, rest)) :
    rest.length ≤ s.length := by
  unfold readHex at h
  split at h
  · split at h
    · cases h; simp only [List.length_cons]; omega
    · cases h
  · split at h <;> cases h

/-- Reads an escape of one letter. -/
def letterEscape? : Char → Option Char
  | '"' => some '"'
  | '\\' => some '\\'
  | '/' => some '/'
  | 'b' => some '\x08'
  | 'f' => some '\x0c'
  | 'n' => some '\n'
  | 'r' => some '\r'
  | 't' => some '\t'
  | _ => none

/-- Reads the second escape of a pair, the first having given `n`. -/
def readSecondHalf (n : Nat) (s : List Char) : Read Char :=
  match s with
  | '\\' :: 'u' :: rest =>
    match readHex rest with
    | .error e => .error e
    | .ok (m, rest) =>
      if m < 0xDC00 || 0xDFFF < m then slip .loneSurrogate rest
      else .ok (Char.ofNat (0x10000 + (n - 0xD800) * 0x400 + (m - 0xDC00)), rest)
  | [] | ['\\'] => slip .endInText []
  | '\\' :: rest => slipPast .halfSurrogate rest
  | _ => slipPast .halfSurrogate s

/-- Behind the second half of a character no more is left than there was. -/
theorem readSecondHalf_shorter {n : Nat} {s rest : List Char} {c : Char}
    (h : readSecondHalf n s = .ok (c, rest)) : rest.length ≤ s.length := by
  unfold readSecondHalf at h
  split at h
  · next r =>
    split at h
    · cases h
    · next m r' h2 =>
      have l2 := readHex_shorter h2
      split at h
      · simp [slip] at h
      · obtain ⟨-, rfl⟩ := Prod.mk.inj (Except.ok.inj h)
        simp only [List.length_cons]
        omega
  · simp [slip] at h
  · simp [slip] at h
  · simp [slipPast] at h
  · simp [slipPast] at h

/-- Reads what follows a backslash: one character, or a code point outside the first plane as a
pair of escapes. -/
def readEscape (s : List Char) : Read Char :=
  match s with
  | [] => slip .endInText []
  | 'u' :: rest =>
    match readHex rest with
    | .error e => .error e
    | .ok (n, rest) =>
      if 0xDC00 ≤ n && n ≤ 0xDFFF then slip .loneSurrogate rest
      else if n < 0xD800 || 0xDBFF < n then .ok (Char.ofNat n, rest)
      else readSecondHalf n rest
  | c :: rest =>
    match letterEscape? c with
    | some e => .ok (e, rest)
    | none => slipPast .badEscape s

/-- Behind an escaped character no more is left than there was. -/
theorem readEscape_shorter {s rest : List Char} {c : Char} (h : readEscape s = .ok (c, rest)) :
    rest.length ≤ s.length := by
  unfold readEscape at h
  split at h
  · cases h
  · next r =>
    split at h
    · cases h
    · next n r' h1 =>
      have l1 := readHex_shorter h1
      split at h
      · simp [slip] at h
      · split at h
        · obtain ⟨-, rfl⟩ := Prod.mk.inj (Except.ok.inj h)
          simp only [List.length_cons]
          omega
        · have l2 := readSecondHalf_shorter h
          simp only [List.length_cons]
          omega
  · split at h
    · cases h
      simp
    · cases h

/-- Reads the characters of a text up to its closing quote. -/
def readText (s : List Char) : Read (List Char) :=
  match s with
  | [] => slip .endInText []
  | '"' :: rest => .ok ([], rest)
  | '\\' :: rest =>
    match _h : readEscape rest with
    | .error e => .error e
    | .ok (c, rest') =>
      match readText rest' with
      | .error e => .error e
      | .ok (cs, rest'') => .ok (c :: cs, rest'')
  | c :: rest =>
    if c < ' ' then slipPast .controlCharacter (c :: rest)
    else match readText rest with
      | .error e => .error e
      | .ok (cs, rest') => .ok (c :: cs, rest')
termination_by s.length
decreasing_by
  · have := readEscape_shorter _h
    simp only [List.length_cons]
    omega
  · simp

/-! ## Numbers -/

/-- A number as it is written: a whole number of 64 bits, or else a double. -/
inductive Number
  | whole (n : Int)
  | real (x : Float)
  deriving Repr

/-- The largest whole number of 64 bits without a sign. -/
def wordLimit : Nat := UInt64.size

/-- Takes in digits as long as the number fits in 64 bits; gives the number and the digits that
were left out. -/
def takeDigits (n : Nat) : List Char → Nat × List Char
  | [] => (n, [])
  | c :: ds =>
    if 10 * n + Text.Numeral.digitValue c < wordLimit then
      takeDigits (10 * n + Text.Numeral.digitValue c) ds
    else (n, c :: ds)

/-- The double nearest to ten to the power `k`, for `k` up to 308. -/
def power (k : Nat) : Float := Float.ofScientific 1 false k

/-- Scales `x` by a negative power of ten, 308 powers at a time. -/
def scaleDown (x : Float) (k : Nat) : Float :=
  if k ≤ 308 then x / power k
  else if x == 0 then x
  else scaleDown (x / power 308) (k - 308)
termination_by k
decreasing_by omega

/-- The double `significand · 10^exponent`, or nothing when it is too large. The product is
rounded once for the significand and once for each power. -/
def realOf (significand : Nat) (exponent : Int) : Option Float :=
  let x := significand.toUInt64.toFloat
  if exponent < 0 then some (scaleDown x (-exponent).toNat)
  else if exponent ≤ 308 then
    let y := x * power exponent.toNat
    if y.isInf then none else some y
  else if x == 0 then some x
  else none

/-- A double with its sign. -/
def signedReal (negative : Bool) (x : Float) : Number := .real (if negative then -x else x)

/-- Finishes a number with a point or an exponent. -/
def finishReal (negative : Bool) (significand : Nat) (exponent : Int) (rest : List Char) :
    Read Number :=
  match realOf significand exponent with
  | some x => .ok (signedReal negative x, rest)
  | none => slip .numberRange rest

/-- Exponents from here on are as good as infinite. -/
def exponentLimit : Nat := Nat.pow 2 31

/-- The input after the digit that takes an exponent to the limit, if one does. -/
def pastLimit? (e : Nat) : List Char → Option (List Char)
  | [] => none
  | c :: rest =>
    if !Text.Numeral.isDigit c then none
    else if exponentLimit ≤ 10 * e + Text.Numeral.digitValue c then some rest
    else pastLimit? (10 * e + Text.Numeral.digitValue c) rest

/-- Reads the exponent after its letter. -/
def readExponent (negative : Bool) (significand : Nat) (start : Int) (s : List Char) :
    Read Number :=
  let (down, s) := match s with
    | '+' :: rest => (false, rest)
    | '-' :: rest => (true, rest)
    | _ => (false, s)
  match s with
  | [] => slip .endInValue []
  | c :: _ =>
    if !Text.Numeral.isDigit c then slipPast .badNumber s
    else
      let ds := s.takeWhile Text.Numeral.isDigit
      let rest := s.dropWhile Text.Numeral.isDigit
      match pastLimit? 0 s with
      | some after =>
        if significand != 0 && !down then slip .numberRange after
        else .ok (signedReal negative 0, rest)
      | none =>
        let e := Text.Numeral.value ds
        finishReal negative significand (if down then start - e else start + e) rest

/-- Reads what follows the decimal point. -/
def readFraction (negative : Bool) (significand : Nat) (start : Int) (s : List Char) :
    Read Number :=
  let ds := s.takeWhile Text.Numeral.isDigit
  let rest := s.dropWhile Text.Numeral.isDigit
  if ds.isEmpty then
    (if s.isEmpty then slip .endInValue [] else slipPast .badNumber s)
  else
    let (significand, left) := takeDigits significand ds
    let exponent : Int := start - (ds.length - left.length : Nat)
    match rest with
    | 'e' :: rest | 'E' :: rest => readExponent negative significand exponent rest
    | _ => finishReal negative significand exponent rest

/-- Reads what follows the digits in front of the point. -/
def readTail (negative : Bool) (significand : Nat) (left : Nat) (s : List Char) : Read Number :=
  match s with
  | '.' :: rest => readFraction negative significand left rest
  | 'e' :: rest | 'E' :: rest => readExponent negative significand left rest
  | _ =>
    if left != 0 then finishReal negative significand left s
    else if !negative then .ok (.whole significand, s)
    else if significand = 0 || Nat.pow 2 63 < significand then
      .ok (signedReal true significand.toUInt64.toFloat, s)
    else .ok (.whole (-significand), s)

/-- Reads a number from its first digit on. -/
def readDigits (negative : Bool) (s : List Char) : Read Number :=
  match s with
  | [] => slip .endInValue []
  | '0' :: rest =>
    match rest with
    | c :: _ => if Text.Numeral.isDigit c then slipPast .badNumber rest else readTail negative 0 0 rest
    | [] => readTail negative 0 0 rest
  | c :: _ =>
    if !Text.Numeral.isDigit c then slipPast .badNumber s
    else
      let ds := s.takeWhile Text.Numeral.isDigit
      let (significand, left) := takeDigits 0 ds
      readTail negative significand left.length (s.dropWhile Text.Numeral.isDigit)

/-- Reads a number. -/
def readNumber (s : List Char) : Read Number :=
  match s with
  | '-' :: rest => readDigits true rest
  | _ => readDigits false s

end PushToTalk.Json
