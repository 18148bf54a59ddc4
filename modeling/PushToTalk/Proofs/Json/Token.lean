import Mathlib.Data.List.Induction
import PushToTalk.Proofs.Json.RoundTrip

/-
  The tokens of JSON as a grammar, and what the readers make of them.

  The readers of the project are state machines over characters, with errors that know how far they
  have come.  To say which texts are accepted one needs another description, and it has to be one
  that a reader of the standard would recognise.  So a token is described here by what it is made
  of, without a word on how it is read, and the readers are proved to accept these and no others.

  A field is read in one of two ways, and the grammars differ accordingly.  A text that is read has
  to spell characters, so its surrogates come in pairs; a text that is passed over, because no field
  wants it, only has to be made of the right pieces, and half a pair will do.  A number that is read
  has to be a whole number of 64 bits, and a number that is passed over may be any.  This difference
  is in the program, and a grammar with one kind of text would not be the language that it accepts.

  1. **Blanks**: what `skipGaps` takes off.
  2. **Texts**: `Spells` for `readText`, `IsText` for `skipText`.
  3. **Numbers**: `IsNumber` for `skipDigits`, a numeral of 64 bits for `readNumber`.

  Each reader comes with two statements: what it accepts is in the grammar, and what is in the
  grammar it accepts.  For texts they are joined into one equivalence, as a text ends with its
  quote.  A number has no sign at its end, so it is accepted where nothing follows that it could go
  on with (`EndsNumber`), and the two statements stay apart.

  The inductions follow the grammar in one direction and the calls of the reader in the other.

  Main statements: `readText_eq_ok_iff`, `skipText_eq_ok_iff`, `skipDigits_unsigned` with
  `unsigned_of_skipDigits`, and `readNumber_whole`.
-/

namespace PushToTalk.Json

open Text.Numeral (digits digitValue isDigit value)

variable {s t rest cs ds g p : List Char} {c e : Char} {n m : Nat}

/-! ## Blanks -/

/-- Nothing but blanks. -/
def AreGaps (g : List Char) : Prop := ∀ c ∈ g, isGap c = true

/-- No blanks are blanks. -/
theorem areGaps_nil : AreGaps [] := fun _ hc => absurd hc List.not_mem_nil

/-- Blanks behind blanks are blanks. -/
theorem AreGaps.append {g' : List Char} (h : AreGaps g) (h' : AreGaps g') : AreGaps (g ++ g') :=
  fun c hc => (List.mem_append.1 hc).elim (h c) (h' c)

/-- Blanks in front do not count. -/
theorem skipGaps_append (h : AreGaps g) (s : List Char) : skipGaps (g ++ s) = skipGaps s :=
  List.dropWhile_append_of_pos h

/-- Blanks are taken off up to the first character that is none. -/
theorem skipGaps_front (hg : AreGaps g) (hc : isGap c = false) :
    skipGaps (g ++ c :: t) = c :: t := by
  rw [skipGaps_append hg, skipGaps_cons hc]

/-- A comma behind blanks is found. This is how the members of objects and lists are told apart. -/
theorem skipGaps_comma (hg : AreGaps g) (t : List Char) :
    skipGaps (g ++ [','] ++ t) = ',' :: t := by
  rw [List.append_assoc]
  exact skipGaps_front hg (by decide)

/-- The blanks that were taken off. -/
theorem exists_gaps (h : skipGaps s = t) : ∃ g, AreGaps g ∧ s = g ++ t :=
  ⟨s.takeWhile isGap, fun c hc => List.all_eq_true.1 List.all_takeWhile c hc,
    h ▸ List.takeWhile_append_dropWhile.symm⟩

/-! ## Texts -/

/-- Four hexadecimal digits, and the number that they stand for. Any number of sixteen bits may
come out, also the halves of a pair. -/
def IsCode (ds : List Char) (n : Nat) : Prop :=
  ds.length = 4 ∧ (∀ c ∈ ds, (Text.hexDigit? c).isSome = true) ∧ n = Text.hexValue ds

/-- Four such digits are read as their number, and nothing else is. -/
theorem readHex_eq_ok_iff : readHex s = .ok (n, rest) ↔ ∃ ds, IsCode ds n ∧ s = ds ++ rest := by
  constructor
  · intro h
    unfold readHex at h
    split at h
    · next a b c d rest' =>
      split at h
      · next a' b' c' d' ha hb hc hd =>
        cases h
        refine ⟨[a, b, c, d], ⟨rfl, ?_, ?_⟩, rfl⟩
        · intro x hx
          simp only [List.mem_cons, List.not_mem_nil, or_false] at hx
          rcases hx with rfl | rfl | rfl | rfl
          · rw [ha]; rfl
          · rw [hb]; rfl
          · rw [hc]; rfl
          · rw [hd]; rfl
        · simp only [Text.hexValue, List.foldl_cons, List.foldl_nil, ha, hb, hc, hd,
            Option.getD_some]
          omega
      · cases h
    · split at h <;> cases h
  · rintro ⟨ds, ⟨hlength, hdigits, rfl⟩, rfl⟩
    match ds, hlength with
    | [a, b, c, d], _ =>
      obtain ⟨a', ha⟩ := Option.isSome_iff_exists.1 (hdigits a (by simp))
      obtain ⟨b', hb⟩ := Option.isSome_iff_exists.1 (hdigits b (by simp))
      obtain ⟨c', hc⟩ := Option.isSome_iff_exists.1 (hdigits c (by simp))
      obtain ⟨d', hd⟩ := Option.isSome_iff_exists.1 (hdigits d (by simp))
      -- the reader puts the four digits together at once, not one by one
      have hvalue : Text.hexValue [a, b, c, d] = 4096 * a' + 256 * b' + 16 * c' + d' := by
        simp only [Text.hexValue, List.foldl_cons, List.foldl_nil, ha, hb, hc, hd,
          Option.getD_some]
        omega
      rw [hvalue]
      show readHex (a :: b :: c :: d :: rest) = _
      simp only [readHex, ha, hb, hc, hd]

/-- The character outside the first plane whose number comes in two halves. -/
def ofHalves (n m : Nat) : Char := Char.ofNat (0x10000 + (n - 0xD800) * 0x400 + (m - 0xDC00))

/-- The spelling of one character of a text. -/
inductive SpellsChar : List Char → Char → Prop
  /-- A character stands for itself. -/
  | plain {c : Char} (hquote : c ≠ '"') (hslash : c ≠ '\\') (hcontrol : ¬ c < ' ') :
      SpellsChar [c] c
  /-- An escape of one letter. -/
  | letter {c e : Char} (h : letterEscape? c = some e) : SpellsChar ['\\', c] e
  /-- The number of a character. -/
  | code {ds : List Char} {n : Nat} (h : IsCode ds n) (hn : n < 0xD800 ∨ 0xDFFF < n) :
      SpellsChar ('\\' :: 'u' :: ds) (Char.ofNat n)
  /-- The number of a character outside the first plane, in two halves. -/
  | pair {ds ds' : List Char} {n m : Nat} (h : IsCode ds n) (hn : 0xD800 ≤ n ∧ n ≤ 0xDBFF)
      (h' : IsCode ds' m) (hm : 0xDC00 ≤ m ∧ m ≤ 0xDFFF) :
      SpellsChar ('\\' :: 'u' :: (ds ++ '\\' :: 'u' :: ds')) (ofHalves n m)

/-- The spelling of a text between its quotes, and the characters that it stands for. -/
inductive Spells : List Char → List Char → Prop
  | nil : Spells [] []
  | cons {p t cs : List Char} {c : Char} (hp : SpellsChar p c) (ht : Spells t cs) :
      Spells (p ++ t) (c :: cs)

/-- Behind the first half of a pair the second one has to come, as an escape, and the two make
one character. -/
theorem readSecondHalf_eq_ok_iff : readSecondHalf n s = .ok (c, rest) ↔
    ∃ ds m, IsCode ds m ∧ (0xDC00 ≤ m ∧ m ≤ 0xDFFF) ∧ s = '\\' :: 'u' :: (ds ++ rest) ∧
      c = ofHalves n m := by
  constructor
  · intro h
    unfold readSecondHalf at h
    split at h
    · split at h
      · cases h
      · next m rest' hhex =>
        split at h
        · cases h
        · next hm =>
          obtain ⟨rfl, rfl⟩ := Prod.mk.inj (Except.ok.inj h)
          rw [Bool.or_eq_true, not_or, decide_eq_true_eq, decide_eq_true_eq] at hm
          obtain ⟨ds, hcode, rfl⟩ := readHex_eq_ok_iff.1 hhex
          exact ⟨ds, m, hcode, ⟨by omega, by omega⟩, rfl, rfl⟩
    -- anything but an escape with a code is refused
    all_goals cases h
  · rintro ⟨ds, m, hcode, hm, rfl, hc⟩
    rw [hc]
    have hread : readHex (ds ++ rest) = .ok (m, rest) := readHex_eq_ok_iff.2 ⟨ds, hcode, rfl⟩
    have hrange : (m < 0xDC00 || 0xDFFF < m) = false := by
      rw [Bool.or_eq_false_iff, decide_eq_false_iff_not, decide_eq_false_iff_not]
      omega
    simp only [readSecondHalf, hread, hrange]
    rfl

/-- What is read behind a backslash is the rest of the spelling of a character. -/
theorem spells_of_readEscape (h : readEscape s = .ok (c, rest)) :
    ∃ p, SpellsChar ('\\' :: p) c ∧ s = p ++ rest := by
  unfold readEscape at h
  split at h
  · cases h
  · split at h
    · cases h
    · next n rest' hhex =>
      obtain ⟨ds, hcode, rfl⟩ := readHex_eq_ok_iff.1 hhex
      split at h
      · cases h
      · -- a second half must not come first
        next hlow =>
        rw [Bool.and_eq_true, decide_eq_true_eq, decide_eq_true_eq] at hlow
        split at h
        · next hplain =>
          cases h
          rw [Bool.or_eq_true, decide_eq_true_eq, decide_eq_true_eq] at hplain
          exact ⟨'u' :: ds, .code hcode (by omega), rfl⟩
        · next hplain =>
          rw [Bool.or_eq_true, not_or, decide_eq_true_eq, decide_eq_true_eq] at hplain
          obtain ⟨ds', m, hcode', hm, rfl, hc⟩ := readSecondHalf_eq_ok_iff.1 h
          rw [hc]
          exact ⟨'u' :: (ds ++ '\\' :: 'u' :: ds'), .pair hcode (by omega) hcode' hm, by simp⟩
  · next c' rest' _ =>
    split at h
    · next e he =>
      cases h
      exact ⟨[c'], .letter he, rfl⟩
    · cases h

/-- A number that is no second half is not refused as one. -/
theorem not_low (h : n < 0xDC00 ∨ 0xDFFF < n) : (0xDC00 ≤ n && n ≤ 0xDFFF) = false := by
  rw [Bool.and_eq_false_iff, decide_eq_false_iff_not, decide_eq_false_iff_not]
  omega

/-- The rest of the spelling of a character is read behind a backslash. The cases are the
spellings; a character that stands for itself has no backslash in front. -/
theorem readEscape_append (hp : SpellsChar ('\\' :: p) c) (rest : List Char) :
    readEscape (p ++ rest) = .ok (c, rest) := by
  cases hp with
  | plain _ hslash => exact absurd rfl hslash
  | @letter c' _ he =>
    have hu : c' ≠ 'u' := by
      rintro rfl
      cases he
    simp only [List.cons_append, List.nil_append]
    unfold readEscape
    split
    · next h => cases h
    · next h =>
      cases h
      exact absurd rfl hu
    · next h =>
      cases h
      rw [he]
  -- a code that is no half of a pair stands for a character by itself
  | @code ds n hcode hn =>
    have hread : readHex (ds ++ rest) = .ok (n, rest) := readHex_eq_ok_iff.2 ⟨ds, hcode, rfl⟩
    have hplain : (n < 0xD800 || 0xDBFF < n) = true := by
      rw [Bool.or_eq_true, decide_eq_true_eq, decide_eq_true_eq]
      omega
    have hlow := not_low (n := n) (by omega)
    simp only [List.cons_append, readEscape, hread, hlow, hplain]
    rfl
  -- a first half is followed by the second, behind a backslash of its own
  | @pair ds ds' n m hcode hn hcode' hm =>
    have hread : readHex ((ds ++ '\\' :: 'u' :: ds') ++ rest) =
        .ok (n, '\\' :: 'u' :: (ds' ++ rest)) :=
      readHex_eq_ok_iff.2 ⟨ds, hcode, by simp⟩
    have hplain : (n < 0xD800 || 0xDBFF < n) = false := by
      rw [Bool.or_eq_false_iff, decide_eq_false_iff_not, decide_eq_false_iff_not]
      omega
    have hsecond : readSecondHalf n ('\\' :: 'u' :: (ds' ++ rest)) = .ok (ofHalves n m, rest) :=
      readSecondHalf_eq_ok_iff.2 ⟨ds', m, hcode', hm, rfl, rfl⟩
    have hlow := not_low (n := n) (by omega)
    simp only [List.cons_append, readEscape, hread, hlow, hplain]
    exact hsecond

/-- A character that stands for itself is read as itself. -/
theorem readText_plain (hquote : c ≠ '"') (hslash : c ≠ '\\') (hcontrol : ¬ c < ' ')
    (ht : readText s = .ok (cs, rest)) : readText (c :: s) = .ok (c :: cs, rest) := by
  rw [readText.eq_def]
  split
  · next h => cases h
  · next h =>
    cases h
    exact absurd rfl hquote
  · next h =>
    cases h
    exact absurd rfl hslash
  · next h =>
    cases h
    rw [if_neg hcontrol, ht]

/-- A text is read exactly if it is spelled, up to its closing quote. Read from left to right,
this says that the reader accepts nothing but spellings and gives the characters spelled; from
right to left, that it accepts them all. -/
theorem readText_eq_ok_iff : readText s = .ok (cs, rest) ↔
    ∃ t, Spells t cs ∧ s = t ++ '"' :: rest := by
  constructor
  · intro h
    fun_induction readText s generalizing cs rest with
    | case1 => cases h
    | case2 =>
      cases h
      exact ⟨[], .nil, rfl⟩
    | case3 => cases h
    | case4 => cases h
    | case5 r c r' he cs' r'' ht ih =>
      cases h
      obtain ⟨p, hp, rfl⟩ := spells_of_readEscape he
      obtain ⟨t, hspells, rfl⟩ := ih ht
      exact ⟨('\\' :: p) ++ t, .cons hp hspells, by simp⟩
    | case6 => cases h
    | case7 => cases h
    | case8 c r hquote hslash hcontrol cs' r' ht ih =>
      cases h
      obtain ⟨t, hspells, rfl⟩ := ih ht
      refine ⟨[c] ++ t, .cons (.plain ?_ ?_ hcontrol) hspells, rfl⟩
      · rintro rfl
        exact hquote rfl
      · rintro rfl
        exact hslash rfl
  · -- by induction on the spelling; a piece of it begins with a backslash exactly if it is an
    -- escape
    rintro ⟨t, hspells, rfl⟩
    induction hspells with
    | nil =>
      show readText ('"' :: rest) = _
      rw [readText]
    | @cons p t cs c hp _ ih =>
      rw [List.append_assoc]
      cases p with
      | nil => cases hp
      | cons first p =>
        by_cases hfirst : first = '\\'
        · subst hfirst
          exact readText_of_readEscape (readEscape_append hp _) ih
        · cases hp with
          | plain hquote hslash hcontrol => exact readText_plain hquote hslash hcontrol ih
          | letter | code | pair => exact absurd rfl hfirst

/-- A piece of a text: a character, or an escape that may be half of a pair. -/
inductive IsPiece : List Char → Prop
  | plain {c : Char} (hquote : c ≠ '"') (hslash : c ≠ '\\') (hcontrol : ¬ c < ' ') : IsPiece [c]
  | letter {c : Char} (h : (letterEscape? c).isSome = true) : IsPiece ['\\', c]
  | code {ds : List Char} {n : Nat} (h : IsCode ds n) : IsPiece ('\\' :: 'u' :: ds)

/-- A text between its quotes. -/
inductive IsText : List Char → Prop
  | nil : IsText []
  | cons {p t : List Char} (hp : IsPiece p) (ht : IsText t) : IsText (p ++ t)

/-- Behind a backslash one piece is passed over: a letter, or a code, without asking what it
stands for. -/
theorem skipEscape_eq_ok_iff : skipEscape s = .ok rest ↔
    ∃ p, IsPiece ('\\' :: p) ∧ s = p ++ rest := by
  constructor
  · intro h
    unfold skipEscape at h
    split at h
    · cases h
    · next r =>
      -- the four digits are read, but not taken for a character
      cases hhex : readHex r with
      | error e =>
        rw [hhex] at h
        cases h
      | ok read =>
        obtain ⟨n, rest'⟩ := read
        rw [hhex] at h
        obtain rfl : rest' = rest := Except.ok.inj h
        obtain ⟨ds, hcode, rfl⟩ := readHex_eq_ok_iff.1 hhex
        exact ⟨'u' :: ds, .code hcode, rfl⟩
    · next c' rest' _ =>
      split at h
      · next he =>
        cases h
        exact ⟨[c'], .letter he, rfl⟩
      · cases h
  · rintro ⟨p, hp, rfl⟩
    cases hp with
    | plain _ hslash => exact absurd rfl hslash
    | @letter c' he =>
      have hu : c' ≠ 'u' := by
        rintro rfl
        cases he
      simp only [List.cons_append, List.nil_append]
      unfold skipEscape
      split
      · next h => cases h
      · next h =>
        cases h
        exact absurd rfl hu
      · next h =>
        cases h
        rw [if_pos he]
    | @code ds n hcode =>
      have hread : readHex (ds ++ rest) = .ok (n, rest) := readHex_eq_ok_iff.2 ⟨ds, hcode, rfl⟩
      simp only [List.cons_append, skipEscape, hread]
      rfl

/-- An escape is passed over, and then the rest of the text. -/
theorem skipText_of_skipEscape (he : skipEscape s = .ok t) :
    skipText ('\\' :: s) = skipText t := by
  rw [skipText]
  split
  · next he' =>
    rw [he] at he'
    cases he'
  · next he' =>
    rw [he] at he'
    cases he'
    rfl

/-- A character that stands for itself is passed over, too. -/
theorem skipText_plain (hquote : c ≠ '"') (hslash : c ≠ '\\') (hcontrol : ¬ c < ' ') :
    skipText (c :: s) = skipText s := by
  rw [skipText.eq_def]
  split
  · next h => cases h
  · next h =>
    cases h
    exact absurd rfl hquote
  · next h =>
    cases h
    exact absurd rfl hslash
  · next h =>
    cases h
    rw [if_neg hcontrol]

/-- A text is passed over exactly if it is made of pieces, up to its closing quote. -/
theorem skipText_eq_ok_iff : skipText s = .ok rest ↔ ∃ t, IsText t ∧ s = t ++ '"' :: rest := by
  constructor
  · intro h
    fun_induction skipText s with
    | case1 => cases h
    | case2 =>
      cases h
      exact ⟨[], .nil, rfl⟩
    | case3 => cases h
    | case4 r r' he ih =>
      obtain ⟨p, hp, rfl⟩ := skipEscape_eq_ok_iff.1 he
      obtain ⟨t, ht, rfl⟩ := ih h
      exact ⟨('\\' :: p) ++ t, .cons hp ht, by simp⟩
    | case5 => cases h
    | case6 c r hquote hslash hcontrol ih =>
      obtain ⟨t, ht, rfl⟩ := ih h
      refine ⟨[c] ++ t, .cons (.plain ?_ ?_ hcontrol) ht, rfl⟩
      · rintro rfl
        exact hquote rfl
      · rintro rfl
        exact hslash rfl
  · -- by induction on the pieces, as before
    rintro ⟨t, ht, rfl⟩
    induction ht with
    | nil =>
      show skipText ('"' :: rest) = _
      rw [skipText]
    | @cons p t hp _ ih =>
      rw [List.append_assoc]
      cases p with
      | nil => cases hp
      | cons first p =>
        rw [List.cons_append]
        by_cases hfirst : first = '\\'
        · subst hfirst
          rw [skipText_of_skipEscape (skipEscape_eq_ok_iff.2 ⟨p, hp, rfl⟩)]
          exact ih
        · cases hp with
          | plain hquote hslash hcontrol =>
            rw [skipText_plain hquote hslash hcontrol]
            exact ih
          | letter | code => exact absurd rfl hfirst

/-! ## Numbers -/

/-- One digit or more. -/
def IsRun (ds : List Char) : Prop := ds ≠ [] ∧ ∀ c ∈ ds, isDigit c = true

/-- The digits in front of the point: a single zero, or digits that do not start with one. -/
def IsWhole (ds : List Char) : Prop := ds = ['0'] ∨ IsRun ds ∧ ds.head? ≠ some '0'

/-- A point with digits behind it, or nothing. -/
def IsFraction (t : List Char) : Prop := t = [] ∨ ∃ ds, IsRun ds ∧ t = '.' :: ds

/-- A sign of an exponent, or nothing. -/
def IsSign (t : List Char) : Prop := t = [] ∨ t = ['+'] ∨ t = ['-']

/-- An exponent, or nothing. -/
def IsExponent (t : List Char) : Prop :=
  t = [] ∨ ∃ letter sign ds, (letter = 'e' ∨ letter = 'E') ∧ IsSign sign ∧ IsRun ds ∧
    t = letter :: (sign ++ ds)

/-- A number without its minus sign. -/
def IsUnsigned (t : List Char) : Prop :=
  ∃ whole fraction exponent, IsWhole whole ∧ IsFraction fraction ∧ IsExponent exponent ∧
    t = whole ++ (fraction ++ exponent)

/-- A number. -/
def IsNumber (t : List Char) : Prop := IsUnsigned t ∨ ∃ u, IsUnsigned u ∧ t = '-' :: u

/-- The input does not go on with a digit. -/
def EndsRun (s : List Char) : Prop := ∀ c ∈ s.head?, isDigit c = false

/-- Where a number is over, its digits are. -/
theorem EndsNumber.endsRun (h : EndsNumber s) : EndsRun s := fun c hc => (h c hc).1

/-- Digits up to something else are taken, and they only. -/
theorem takeWhile_run (h : IsRun ds) (hrest : EndsRun rest) :
    (ds ++ rest).takeWhile isDigit = ds ∧ (ds ++ rest).dropWhile isDigit = rest :=
  Text.divide_append h.2 rest hrest

/-- Digits up to something else. -/
theorem exists_run (s : List Char) : ∃ ds, (∀ c ∈ ds, isDigit c = true) ∧
    s = ds ++ s.dropWhile isDigit ∧ ds = s.takeWhile isDigit :=
  ⟨s.takeWhile isDigit, fun c hc => List.all_eq_true.1 List.all_takeWhile c hc,
    List.takeWhile_append_dropWhile.symm, rfl⟩

/-- Digits are passed over where at least one is wanted. -/
theorem skipSomeDigits_append (h : IsRun ds) (hrest : EndsRun rest) :
    skipSomeDigits (ds ++ rest) = .ok rest := by
  obtain ⟨hne, hdigits⟩ := h
  cases ds with
  | nil => exact absurd rfl hne
  | cons c ds =>
    have hlater := Text.divide_append (fun d hd => hdigits d (List.mem_cons_of_mem c hd)) rest hrest
    show (if isDigit c = true then Except.ok ((ds ++ rest).dropWhile isDigit) else _) = _
    rw [if_pos (hdigits c List.mem_cons_self), hlater.2]

/-- What is passed over there are digits, at least one. -/
theorem run_of_skipSomeDigits (h : skipSomeDigits s = .ok rest) :
    ∃ ds, IsRun ds ∧ s = ds ++ rest := by
  unfold skipSomeDigits at h
  split at h
  · cases h
  · next c r =>
    split at h
    · next hc =>
      cases h
      obtain ⟨ds, hds, hsplit, -⟩ := exists_run r
      refine ⟨c :: ds, ⟨List.cons_ne_nil _ _, ?_⟩, congrArg (c :: ·) hsplit⟩
      intro d hd
      rcases List.mem_cons.1 hd with rfl | hd
      · exact hc
      · exact hds d hd
    · cases h

/-- The sign that is dropped is a sign of an exponent. -/
theorem exists_sign (s : List Char) : ∃ sign, IsSign sign ∧ s = sign ++ dropSign s := by
  unfold dropSign
  split
  · exact ⟨['+'], Or.inr (Or.inl rfl), rfl⟩
  · exact ⟨['-'], Or.inr (Or.inr rfl), rfl⟩
  · exact ⟨[], Or.inl rfl, rfl⟩

/-- A sign in front of digits is dropped. -/
theorem dropSign_append {sign : List Char} (hsign : IsSign sign) (h : IsRun ds) (rest : List Char) :
    dropSign (sign ++ (ds ++ rest)) = ds ++ rest := by
  rcases hsign with rfl | rfl | rfl
  · obtain ⟨hne, hdigits⟩ := h
    cases ds with
    | nil => exact absurd rfl hne
    | cons c ds =>
      have hc := hdigits c List.mem_cons_self
      show dropSign (c :: (ds ++ rest)) = _
      unfold dropSign
      split
      · next he =>
        cases he
        exact absurd hc (by decide)
      · next he =>
        cases he
        exact absurd hc (by decide)
      · rfl
  · rfl
  · rfl

/-- An exponent behind its letter is passed over. -/
theorem skipExponent_append {sign : List Char} (hsign : IsSign sign) (h : IsRun ds)
    (hrest : EndsRun rest) : skipExponent (sign ++ (ds ++ rest)) = .ok rest := by
  unfold skipExponent
  rw [dropSign_append hsign h]
  exact skipSomeDigits_append h hrest

/-- What is passed over behind the letter is the rest of an exponent. -/
theorem exponent_of_skipExponent (h : skipExponent s = .ok rest) :
    ∃ sign ds, IsSign sign ∧ IsRun ds ∧ s = sign ++ ds ++ rest := by
  obtain ⟨sign, hsign, hs⟩ := exists_sign s
  obtain ⟨ds, hds, hdrop⟩ := run_of_skipSomeDigits h
  exact ⟨sign, ds, hsign, hds, by rw [hs, hdrop, List.append_assoc]⟩

/-- Where neither a point nor the letter of an exponent comes, the number is over. -/
theorem skipTail_of_other (h : ∀ c ∈ s.head?, c ≠ '.' ∧ c ≠ 'e' ∧ c ≠ 'E') :
    skipTail s = .ok s := by
  unfold skipTail
  split
  · exact absurd rfl (h '.' rfl).1
  · exact absurd rfl (h 'e' rfl).2.1
  · exact absurd rfl (h 'E' rfl).2.2
  · rfl

/-- An exponent is passed over. -/
theorem skipTail_exponent (h : IsExponent t) (hrest : EndsNumber rest) :
    skipTail (t ++ rest) = .ok rest := by
  rcases h with rfl | ⟨letter, sign, ds, hletter, hsign, hds, rfl⟩
  · exact skipTail_of_other fun c hc => (hrest c hc).2
  · have hskip : skipExponent (sign ++ (ds ++ rest)) = .ok rest :=
      skipExponent_append hsign hds hrest.endsRun
    rw [List.cons_append, List.append_assoc]
    rcases hletter with rfl | rfl <;> exact hskip

/-- Digits behind a point are passed over, and then the exponent if there is one. That no second
point follows is a hypothesis, since the function would take it for the first. -/
theorem skipTail_fraction (h : IsRun ds) (hs : EndsRun s) (hpoint : s.head? ≠ some '.') :
    skipTail ('.' :: (ds ++ s)) = skipTail s := by
  obtain ⟨htake, hdrop⟩ := takeWhile_run h hs
  have hsome : ds.isEmpty = false := by simpa using h.1
  rw [skipTail, htake, hdrop, hsome, if_neg Bool.false_ne_true]
  unfold skipTail
  split
  · rfl
  · rfl
  · next he hE =>
    split
    · exact absurd rfl hpoint
    · exact absurd rfl (he _)
    · exact absurd rfl (hE _)
    · rfl

/-- What may come behind the digits in front of the point is passed over. -/
theorem skipTail_append {fraction exponent : List Char} (hf : IsFraction fraction)
    (he : IsExponent exponent) (hrest : EndsNumber rest) :
    skipTail (fraction ++ (exponent ++ rest)) = .ok rest := by
  rcases hf with rfl | ⟨ds, hds, rfl⟩
  · exact skipTail_exponent he hrest
  · -- the digits behind the point end where the exponent begins, or where the number is over
    have hhead : ∀ c ∈ (exponent ++ rest).head?, isDigit c = false ∧ c ≠ '.' := by
      intro c hc
      rcases he with rfl | ⟨letter, sign, es, hletter, -, -, rfl⟩
      · exact ⟨(hrest c hc).1, (hrest c hc).2.1⟩
      · obtain rfl : letter = c := Option.some.inj hc
        rcases hletter with rfl | rfl <;> decide
    rw [List.cons_append, skipTail_fraction hds fun c hc => (hhead c hc).1]
    · exact skipTail_exponent he hrest
    · intro hpoint
      exact (hhead '.' hpoint).2 rfl

/-- An exponent follows its letter. -/
theorem exponent_of_letter {letter : Char} (hletter : letter = 'e' ∨ letter = 'E')
    (h : skipExponent s = .ok rest) : ∃ t, IsExponent t ∧ letter :: s = t ++ rest := by
  obtain ⟨sign, ds, hsign, hds, rfl⟩ := exponent_of_skipExponent h
  exact ⟨letter :: (sign ++ ds), Or.inr ⟨letter, sign, ds, hletter, hsign, hds, rfl⟩, rfl⟩

/-- What is passed over there is a fraction, then an exponent, and each of them may be missing. -/
theorem tail_of_skipTail (h : skipTail s = .ok rest) :
    ∃ fraction exponent, IsFraction fraction ∧ IsExponent exponent ∧
      s = fraction ++ (exponent ++ rest) := by
  unfold skipTail at h
  split at h
  · -- behind a point there has to be a digit
    next r =>
    dsimp only at h
    split at h
    · cases h
    · next hsome =>
      obtain ⟨ds, hdigits, hsplit, htake⟩ := exists_run r
      have hds : IsRun ds := ⟨by simpa [htake] using hsome, hdigits⟩
      generalize r.dropWhile isDigit = after at h hsplit
      have hfront : '.' :: r = ('.' :: ds) ++ after := congrArg ('.' :: ·) hsplit
      split at h
      · obtain ⟨t, ht, hs⟩ := exponent_of_letter (Or.inl rfl) h
        exact ⟨'.' :: ds, t, Or.inr ⟨ds, hds, rfl⟩, ht, by rw [hfront, hs]⟩
      · obtain ⟨t, ht, hs⟩ := exponent_of_letter (Or.inr rfl) h
        exact ⟨'.' :: ds, t, Or.inr ⟨ds, hds, rfl⟩, ht, by rw [hfront, hs]⟩
      · cases h
        exact ⟨'.' :: ds, [], Or.inr ⟨ds, hds, rfl⟩, Or.inl rfl, hfront⟩
  · obtain ⟨t, ht, hs⟩ := exponent_of_letter (Or.inl rfl) h
    exact ⟨[], t, Or.inl rfl, ht, hs⟩
  · obtain ⟨t, ht, hs⟩ := exponent_of_letter (Or.inr rfl) h
    exact ⟨[], t, Or.inl rfl, ht, hs⟩
  · cases h
    exact ⟨[], [], Or.inl rfl, Or.inl rfl, rfl⟩

/-- The digits in front of the point are passed over. A zero stands alone; that is why a second
digit behind it is refused. -/
theorem skipDigits_append (h : IsWhole ds) (hs : EndsRun s) :
    skipDigits (ds ++ s) = skipTail s := by
  rcases h with rfl | ⟨⟨hne, hdigits⟩, hzero⟩
  · have hnone : (s.head?.map isDigit).getD false = false := by
      cases s with
      | nil => rfl
      | cons c s => exact hs c rfl
    show (if (s.head?.map isDigit).getD false = true then _ else _) = _
    rw [hnone]
    rfl
  · cases ds with
    | nil => exact absurd rfl hne
    | cons c ds =>
      have hc : isDigit c = true := hdigits c List.mem_cons_self
      have hlater := Text.divide_append (fun d hd => hdigits d (List.mem_cons_of_mem c hd)) s hs
      rw [List.cons_append]
      unfold skipDigits
      split
      · next h => cases h
      · next h =>
        cases h
        exact absurd rfl hzero
      · next h =>
        cases h
        rw [if_pos hc, hlater.2]

/-- What is passed over first are digits as they may stand in front of a point. -/
theorem whole_of_skipDigits (h : skipDigits s = .ok rest) :
    ∃ ds s', IsWhole ds ∧ s = ds ++ s' ∧ skipTail s' = .ok rest := by
  unfold skipDigits at h
  split at h
  · cases h
  · next r =>
    split at h
    · cases h
    · exact ⟨['0'], r, Or.inl rfl, rfl, h⟩
  · next c r hzero =>
    split at h
    · next hc =>
      obtain ⟨ds, hdigits, hsplit, -⟩ := exists_run r
      refine ⟨c :: ds, r.dropWhile isDigit, Or.inr ⟨⟨List.cons_ne_nil _ _, ?_⟩, ?_⟩,
        congrArg (c :: ·) hsplit, h⟩
      · intro d hd
        rcases List.mem_cons.1 hd with rfl | hd
        · exact hc
        · exact hdigits d hd
      · -- a first zero was another case of the reader
        intro he
        exact hzero (Option.some.inj he)
    · cases h

/-- What can follow the digits in front of the point does not begin with another digit. -/
theorem endsRun_tail {fraction exponent : List Char} (hf : IsFraction fraction)
    (he : IsExponent exponent) (hrest : EndsNumber rest) :
    EndsRun (fraction ++ (exponent ++ rest)) := by
  intro c hc
  rcases hf with rfl | ⟨ds, -, rfl⟩
  · rcases he with rfl | ⟨letter, sign, es, hletter, -, -, rfl⟩
    · exact (hrest c hc).1
    · obtain rfl : letter = c := Option.some.inj hc
      rcases hletter with rfl | rfl <;> decide
  · obtain rfl : '.' = c := Option.some.inj hc
    decide

/-- A number without its sign is passed over where nothing follows that it could go on with.
Together with the next statement this is the grammar of numbers. -/
theorem skipDigits_unsigned (h : IsUnsigned t) (hrest : EndsNumber rest) :
    skipDigits (t ++ rest) = .ok rest := by
  obtain ⟨whole, fraction, exponent, hw, hf, he, rfl⟩ := h
  rw [List.append_assoc, List.append_assoc, skipDigits_append hw (endsRun_tail hf he hrest)]
  exact skipTail_append hf he hrest

/-- What is passed over is a number without its sign. -/
theorem unsigned_of_skipDigits (h : skipDigits s = .ok rest) :
    ∃ t, IsUnsigned t ∧ s = t ++ rest := by
  obtain ⟨whole, s', hw, rfl, htail⟩ := whole_of_skipDigits h
  obtain ⟨fraction, exponent, hf, he, rfl⟩ := tail_of_skipTail htail
  exact ⟨_, ⟨whole, fraction, exponent, hw, hf, he, rfl⟩, by simp⟩

/-! ## Whole numbers -/

/-- The digits are ten characters in a row. -/
theorem isDigit_bounds (h : isDigit c = true) : 48 ≤ c.toNat ∧ c.toNat ≤ 57 := by
  unfold isDigit at h
  rw [Bool.and_eq_true, decide_eq_true_eq, decide_eq_true_eq] at h
  exact h

/-- A digit is the one of its value, and the value is below ten. -/
theorem digitChar_digitValue (h : isDigit c = true) :
    digitValue c < 10 ∧ Text.Numeral.digitChar (digitValue c) = c := by
  obtain ⟨hlow, hhigh⟩ := isDigit_bounds h
  have hcode : 48 + (c.toNat - 48) = c.toNat := by omega
  refine ⟨by show c.toNat - 48 < 10; omega, ?_⟩
  show Char.ofNat (48 + (c.toNat - 48)) = c
  rw [hcode, Char.ofNat_toNat]

/-- The numeral of zero. -/
theorem digits_zero : digits 0 = ['0'] := by
  rw [digits, if_pos (by decide)]
  rfl

/-- Digits that do not start with a zero are the numeral of the number that they stand for. So a
numeral that is read and written again is the same, and two numerals of one number are equal. The
induction is on the digits from behind, since the last digit is the remainder. -/
theorem digits_value (h : IsWhole ds) : digits (value ds) = ds := by
  rcases h with rfl | ⟨⟨hne, hdigits⟩, hzero⟩
  · exact digits_zero
  induction ds using List.reverseRec with
  | nil => exact absurd rfl hne
  | append_singleton front c ih =>
    obtain ⟨hten, hchar⟩ := digitChar_digitValue (hdigits c (by simp))
    cases front with
    | nil =>
      have hvalue : value ([] ++ [c]) = digitValue c := by simp [value]
      rw [hvalue, digits, if_pos hten, hchar]
      rfl
    | cons first front =>
      have hfront : digits (value (first :: front)) = first :: front :=
        ih hzero (List.cons_ne_nil _ _) fun d hd => hdigits d (List.mem_append_left _ hd)
      -- a leading zero is all that could make the front worth nothing
      have hpos : value (first :: front) ≠ 0 := by
        intro hnothing
        rw [hnothing, digits_zero] at hfront
        obtain rfl : '0' = first := (List.cons.inj hfront).1
        exact hzero rfl
      rw [Text.Numeral.value_concat, digits, if_neg (by omega)]
      have hquotient : (10 * value (first :: front) + digitValue c) / 10 =
          value (first :: front) := by omega
      have hremainder : (10 * value (first :: front) + digitValue c) % 10 = digitValue c := by
        omega
      rw [hquotient, hremainder, hfront, hchar]

/-- All digits are taken in only if the number fits in 64 bits. The reader asks before each digit
whether it would still fit; the bound is the invariant. -/
theorem lt_of_takeDigits (hn : n < wordLimit) (h : takeDigits n ds = (m, [])) :
    m = ds.foldl (fun n c => 10 * n + digitValue c) n ∧ m < wordLimit := by
  induction ds generalizing n with
  | nil =>
    cases h
    exact ⟨rfl, hn⟩
  | cons c ds ih =>
    rw [takeDigits] at h
    split at h
    · next hfits => exact ih hfits h
    · cases h

section Real

variable {negative : Bool} {start : Int} {i : Int}

/-- A number with digits left out is a real one, never a whole number. -/
theorem finishReal_ne_whole : finishReal negative n start s ≠ .ok (.whole i, rest) := by
  intro h
  unfold finishReal at h
  split at h <;> cases h

/-- A number with an exponent is a real one, even where its value is whole. -/
theorem readExponent_ne_whole : readExponent negative n start s ≠ .ok (.whole i, rest) := by
  intro h
  unfold readExponent at h
  -- the sign decides which way the exponent counts, and nothing else
  split at h
  dsimp only at h
  split at h
  · cases h
  · split at h
    · cases h
    · split at h
      · split at h <;> cases h
      · exact finishReal_ne_whole h

/-- A number with a point is a real one, even where its value is whole. -/
theorem readFraction_ne_whole : readFraction negative n start s ≠ .ok (.whole i, rest) := by
  intro h
  unfold readFraction at h
  dsimp only at h
  split at h
  · split at h <;> cases h
  · split at h
    · exact readExponent_ne_whole h
    · exact readExponent_ne_whole h
    · exact finishReal_ne_whole h

/-- A number is whole if all its digits were taken in and nothing that belongs to it follows.
Below zero it must not be below the least number with a sign, and minus zero is a real number. -/
theorem whole_of_readTail {left : Nat} (h : readTail negative n left s = .ok (.whole i, rest)) :
    left = 0 ∧ rest = s ∧
      (negative = false ∧ i = n ∨ negative = true ∧ i = -n ∧ n ≠ 0 ∧ n ≤ 9223372036854775808) := by
  unfold readTail at h
  split at h
  · exact absurd h readFraction_ne_whole
  · exact absurd h readExponent_ne_whole
  · exact absurd h readExponent_ne_whole
  · split at h
    · exact absurd h finishReal_ne_whole
    · next hleft =>
      have hleft : left = 0 := by simpa using hleft
      split at h
      · next hplain =>
        cases h
        exact ⟨hleft, rfl, Or.inl ⟨by simpa using hplain, rfl⟩⟩
      · next hminus =>
        split at h
        · cases h
        · next hsize =>
          rw [Bool.or_eq_true, not_or, decide_eq_true_eq, decide_eq_true_eq, Nat.not_lt] at hsize
          cases h
          exact ⟨hleft, rfl, Or.inr ⟨by simpa using hminus, rfl, hsize⟩⟩

/-- The digits of a whole number are its numeral, behind the sign. -/
theorem whole_of_readDigits (h : readDigits negative s = .ok (.whole i, rest)) :
    ∃ m, s = digits m ++ rest ∧ m < wordLimit ∧
      (negative = false ∧ i = m ∨ negative = true ∧ i = -m ∧ m ≠ 0 ∧ m ≤ 9223372036854775808) := by
  have hzero : (0 : Nat) < wordLimit := by decide
  unfold readDigits at h
  split at h
  · cases h
  · next r =>
    have htail : readTail negative 0 0 r = .ok (.whole i, rest) := by
      split at h
      · split at h
        · cases h
        · exact h
      · exact h
    obtain ⟨-, rfl, hi⟩ := whole_of_readTail htail
    exact ⟨0, by rw [digits_zero]; rfl, hzero, hi⟩
  · next c r hc =>
    split at h
    · cases h
    · next hdigit =>
      have hdigit : isDigit c = true := by simpa using hdigit
      obtain ⟨ds, hds, hsplit, htake⟩ := exists_run (c :: r)
      dsimp only at h
      rw [← htake] at h
      obtain ⟨hleft, hrest, hi⟩ := whole_of_readTail h
      -- no digit is left out, so the number is what all of them stand for
      have hall : takeDigits 0 ds = ((takeDigits 0 ds).1, []) := by
        rw [← List.eq_nil_of_length_eq_zero hleft]
      obtain ⟨hvalue, hlimit⟩ := lt_of_takeDigits hzero hall
      have hhead : ds.head? = some c := by
        rw [htake, List.takeWhile_cons_of_pos hdigit]
        rfl
      have hne : ds ≠ [] := by
        rintro rfl
        cases hhead
      have hwhole : IsWhole ds := by
        refine Or.inr ⟨⟨hne, hds⟩, ?_⟩
        rw [hhead]
        intro he
        exact hc (Option.some.inj he)
      refine ⟨(takeDigits 0 ds).1, ?_, hlimit, hi⟩
      rw [hvalue, hrest]
      show c :: r = digits (value ds) ++ _
      rw [digits_value hwhole]
      exact hsplit

end Real

/-- What is read as a whole number is a numeral of 64 bits, and it is the numeral of that very
number: no leading zero, no plus sign, no point. -/
theorem readNumber_whole {i : Int} (h : readNumber s = .ok (.whole i, rest)) :
    IsWord i ∧ s = Text.Numeral.signed i ++ rest := by
  have hlimit : wordLimit = 18446744073709551616 := rfl
  unfold readNumber at h
  split at h
  · next r =>
    obtain ⟨m, rfl, hm, ⟨hminus, -⟩ | ⟨-, rfl, hpos, hhigh⟩⟩ := whole_of_readDigits h
    · cases hminus
    have hneg : -(m : Int) < 0 := by omega
    have hsigned : Text.Numeral.signed (-(m : Int)) = '-' :: digits m := by
      unfold Text.Numeral.signed
      rw [if_pos hneg, Int.natAbs_neg, Int.natAbs_natCast]
    rw [hsigned]
    exact ⟨⟨by omega, by omega⟩, rfl⟩
  · obtain ⟨m, rfl, hm, ⟨-, rfl⟩ | ⟨hminus, -⟩⟩ := whole_of_readDigits h
    · have hsigned : Text.Numeral.signed (m : Int) = digits m := by
        unfold Text.Numeral.signed
        rw [if_neg (by omega), Int.natAbs_natCast]
      rw [hsigned]
      exact ⟨⟨by omega, by omega⟩, rfl⟩
    · cases hminus

end PushToTalk.Json
