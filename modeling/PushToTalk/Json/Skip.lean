import PushToTalk.Json.Scan

/-
  Passing over a JSON value without reading it.

  The value has to be well-formed, but texts may pair their surrogates in any way and numbers may
  be of any size, because nothing is made of them.  Nesting is kept on a stack of its own, so
  there is no limit to it.

  Every part leaves less than it found.  The lemmas named `…_shorter` say so; they are why passing
  over a value comes to an end.
-/

namespace PushToTalk.Json

/-! ## Scalars -/

/-- Passes over what follows a backslash. -/
def skipEscape (s : List Char) : Except Slip (List Char) :=
  match s with
  | [] => slip .endInText []
  | 'u' :: rest => (readHex rest).map (·.2)
  | c :: rest => if (letterEscape? c).isSome then .ok rest else slipPast .badEscape s

/-- Behind an escape no more is left than there was. -/
theorem skipEscape_shorter {s rest : List Char} (h : skipEscape s = .ok rest) :
    rest.length ≤ s.length := by
  unfold skipEscape at h
  split at h
  · cases h
  · next r =>
    cases hr : readHex r with
    | error e => simp [hr, Except.map] at h
    | ok p =>
      obtain ⟨n, r'⟩ := p
      have := readHex_shorter hr
      simp only [hr, Except.map, Except.ok.injEq] at h
      subst h
      simp only [List.length_cons]
      omega
  · split at h
    · cases h
      simp
    · cases h

/-- Passes over the characters of a text up to its closing quote. -/
def skipText (s : List Char) : Except Slip (List Char) :=
  match s with
  | [] => slip .endInText []
  | '"' :: rest => .ok rest
  | '\\' :: rest =>
    match _h : skipEscape rest with
    | .error e => .error e
    | .ok rest' => skipText rest'
  | c :: rest => if c < ' ' then slip .controlCharacter (c :: rest) else skipText rest
termination_by s.length
decreasing_by
  · have := skipEscape_shorter _h
    simp only [List.length_cons]
    omega
  · simp

/-- Behind a text less is left, as its closing quote is passed. -/
theorem skipText_shorter {s rest : List Char} (h : skipText s = .ok rest) :
    rest.length < s.length := by
  fun_induction skipText s with
  | case1 => cases h
  | case2 => cases h; simp
  | case3 => cases h
  | case4 r r' he ih =>
    have := skipEscape_shorter he
    have := ih h
    simp only [List.length_cons]
    omega
  | case5 => cases h
  | case6 c r _ _ _ ih =>
    have := ih h
    simp only [List.length_cons]
    omega

/-- The input after a sign, if there is one. -/
def dropSign (s : List Char) : List Char :=
  match s with
  | '+' :: rest => rest
  | '-' :: rest => rest
  | _ => s

/-- Without its sign a number is no longer than before. -/
theorem dropSign_shorter (s : List Char) : (dropSign s).length ≤ s.length := by
  unfold dropSign
  split <;> simp

/-- Passes over one digit or more. -/
def skipSomeDigits (s : List Char) : Except Slip (List Char) :=
  match s with
  | [] => slip .badNumber []
  | c :: rest =>
    if Text.Numeral.isDigit c then .ok (rest.dropWhile Text.Numeral.isDigit)
    else slipPast .badNumber s

/-- Behind digits no more is left than there was. -/
theorem skipSomeDigits_shorter {s rest : List Char} (h : skipSomeDigits s = .ok rest) :
    rest.length ≤ s.length := by
  unfold skipSomeDigits at h
  split at h
  · cases h
  · next r =>
    split at h
    · cases h
      have := length_dropWhile_le Text.Numeral.isDigit r
      simp only [List.length_cons]
      omega
    · cases h

/-- Passes over the exponent after its letter. -/
def skipExponent (s : List Char) : Except Slip (List Char) := skipSomeDigits (dropSign s)

/-- Behind an exponent no more is left than there was. -/
theorem skipExponent_shorter {s rest : List Char} (h : skipExponent s = .ok rest) :
    rest.length ≤ s.length :=
  Nat.le_trans (skipSomeDigits_shorter h) (dropSign_shorter s)

/-- Passes over what follows the digits in front of the point. -/
def skipTail (s : List Char) : Except Slip (List Char) :=
  match s with
  | '.' :: rest =>
    let after := rest.dropWhile Text.Numeral.isDigit
    if (rest.takeWhile Text.Numeral.isDigit).isEmpty then slipPast .badNumber rest
    else match after with
      | 'e' :: rest | 'E' :: rest => skipExponent rest
      | _ => .ok after
  | 'e' :: rest | 'E' :: rest => skipExponent rest
  | _ => .ok s

/-- Behind a fraction and an exponent no more is left than there was. -/
theorem skipTail_shorter {s rest : List Char} (h : skipTail s = .ok rest) :
    rest.length ≤ s.length := by
  unfold skipTail at h
  split at h
  · next r =>
    have hd := length_dropWhile_le Text.Numeral.isDigit r
    dsimp only at h
    split at h
    · cases h
    · split at h
      · next r' he =>
        have := skipExponent_shorter h
        rw [he] at hd
        simp only [List.length_cons] at hd ⊢
        omega
      · next r' he =>
        have := skipExponent_shorter h
        rw [he] at hd
        simp only [List.length_cons] at hd ⊢
        omega
      · cases h
        simp only [List.length_cons]
        omega
  · have := skipExponent_shorter h
    simp only [List.length_cons]
    omega
  · have := skipExponent_shorter h
    simp only [List.length_cons]
    omega
  · cases h
    exact Nat.le_refl _

/-- Passes over a number from its first digit on. -/
def skipDigits (s : List Char) : Except Slip (List Char) :=
  match s with
  | [] => slip .badNumber []
  | '0' :: rest =>
    if (rest.head?.map Text.Numeral.isDigit).getD false then slipPast .badNumber rest
    else skipTail rest
  | c :: rest =>
    if Text.Numeral.isDigit c then skipTail (rest.dropWhile Text.Numeral.isDigit)
    else slipPast .badNumber s

/-- A number has at least one digit, so less is left behind it. -/
theorem skipDigits_shorter {s rest : List Char} (h : skipDigits s = .ok rest) :
    rest.length < s.length := by
  unfold skipDigits at h
  split at h
  · cases h
  · split at h
    · cases h
    · have := skipTail_shorter h
      simp only [List.length_cons]
      omega
  · next r _ =>
    split at h
    · have := skipTail_shorter h
      have := length_dropWhile_le Text.Numeral.isDigit r
      simp only [List.length_cons]
      omega
    · cases h

/-- Passes over a value that is neither a list nor an object. -/
def skipScalar (s : List Char) : Except Slip (List Char) :=
  match s with
  | 'n' :: rest => readWord "ull".toList rest
  | 't' :: rest => readWord "rue".toList rest
  | 'f' :: rest => readWord "alse".toList rest
  | '"' :: rest => skipText rest
  | '-' :: rest => skipDigits rest
  | c :: _ => if Text.Numeral.isDigit c then skipDigits s else slipPast .wantValue s
  | [] => slip .endInValue []

/-- Less is left behind a word, a text or a number. -/
theorem skipScalar_shorter {s rest : List Char} (h : skipScalar s = .ok rest) :
    rest.length < s.length := by
  unfold skipScalar at h
  split at h
  · exact Nat.lt_succ_of_le (readWord_shorter h)
  · exact Nat.lt_succ_of_le (readWord_shorter h)
  · exact Nat.lt_succ_of_le (readWord_shorter h)
  · exact Nat.lt_succ_of_lt (skipText_shorter h)
  · exact Nat.lt_succ_of_lt (skipDigits_shorter h)
  · split at h
    · exact skipDigits_shorter h
    · cases h
  · cases h

/-! ## Lists and objects -/

/-- What the value being passed over lies in. -/
inductive Frame
  | list
  | object
  deriving DecidableEq, Repr

/-- Passes over the key of an object and its colon. -/
def skipKey (s : List Char) : Except Slip (List Char) :=
  match skipGaps s with
  | [] => slip .endInObject []
  | '"' :: rest =>
    match skipText rest with
    | .error e => .error e
    | .ok rest =>
      match skipGaps rest with
      | [] => slip .endInObject []
      | ':' :: rest => .ok rest
      | other => slipPast .wantColon other
  | other => slipPast .keyNotText other

/-- Less is left behind a key and its colon. -/
theorem skipKey_shorter {s rest : List Char} (h : skipKey s = .ok rest) :
    rest.length < s.length := by
  have hs := skipGaps_shorter s
  unfold skipKey at h
  split at h
  · cases h
  · next r he =>
    rw [he] at hs
    split at h
    · cases h
    · next r' ht =>
      have h1 := skipText_shorter ht
      have h2 := skipGaps_shorter r'
      split at h
      · cases h
      · next r'' he' =>
        cases h
        rw [he'] at h2
        simp only [List.length_cons] at hs h1 h2
        omega
      · cases h
  · cases h

/-- What comes next while a value is passed over. -/
inductive Turn
  /-- A value. -/
  | value
  /-- The end of the enclosing list or object, or its next element; `comma` tells whether an
  element came before, so that a comma has to separate them. -/
  | next (comma : Bool)
  deriving DecidableEq, Repr

/-- Ends the innermost list or object. -/
def closes (frame : Frame) (c : Char) : Bool :=
  match frame with
  | .list => c == ']'
  | .object => c == '\x7d'

/-- Passes over the rest of a value that lies inside the given lists and objects. -/
def skipFrom (frames : List Frame) (turn : Turn) (s : List Char) : Except Slip (List Char) :=
  match turn with
  | .value =>
    match _he : skipGaps s with
    | '[' :: rest => skipFrom (.list :: frames) (.next false) rest
    | '\x7b' :: rest => skipFrom (.object :: frames) (.next false) rest
    | other =>
      match _h : skipScalar other with
      | .error e => .error e
      | .ok rest => skipFrom frames (.next true) rest
  | .next comma =>
    match frames with
    | [] => .ok s
    | frame :: outer =>
      match _he : skipGaps s with
      | [] => slip (match frame with | .list => .endInList | .object => .endInObject) []
      | c :: rest =>
        if closes frame c then skipFrom outer (.next true) rest
        else if comma && c != ',' then
          slipPast (match frame with | .list => .wantListComma | .object => .wantObjectComma)
            (c :: rest)
        else
          let item := if comma then rest else c :: rest
          match frame with
          | .list => skipFrom (.list :: outer) .value item
          | .object =>
            match _h : skipKey item with
            | .error e => .error e
            | .ok item' => skipFrom (.object :: outer) .value item'
termination_by (s.length, if turn = .value then 0 else 1)
decreasing_by
  all_goals have hs := skipGaps_shorter s
  all_goals rw [_he] at hs
  · simp only [List.length_cons] at hs
    left
    omega
  · simp only [List.length_cons] at hs
    left
    omega
  · have := skipScalar_shorter _h
    left
    omega
  · simp only [List.length_cons] at hs
    left
    omega
  · simp only [List.length_cons] at hs
    have : item.length ≤ s.length := by
      show (if comma then rest else c :: rest).length ≤ s.length
      split
      · omega
      · simpa using hs
    rcases Nat.lt_or_eq_of_le this with h | h
    · left
      exact h
    · rw [h]
      right
      simp
  · simp only [List.length_cons] at hs
    have h1 := skipKey_shorter _h
    have : item.length ≤ s.length := by
      show (if comma then rest else c :: rest).length ≤ s.length
      split
      · omega
      · simpa using hs
    left
    omega

/-- Passes over a value. -/
def skipValue (s : List Char) : Except Slip (List Char) := skipFrom [] .value s

end PushToTalk.Json
