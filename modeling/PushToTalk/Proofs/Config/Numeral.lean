import PushToTalk.Config.Load
import PushToTalk.Proofs.Json.Token
import PushToTalk.Proofs.Numeral

/-
  Numerals in configuration files.

  A port is set in a configuration file by a numeral, and the file may be in any of six formats,
  each with a reader of its own.  The numerals told of here are those of tens, with a minus sign in
  front if need be, as `signed` writes them.  Such a numeral is a whole number wherever it fits in
  64 bits with a sign.  What becomes of the others is up to the format: some refuse them, some take
  them for reals, and one takes all numerals for texts.

  1. **Digits** — what the readers of all formats have in common: a run of digits, whose value they
     add up (`foldlM_digits`), with an end (`takeWhile_digits`) and a sign (`exists_body`).

  2. **The end of a numeral** — it is over where the text ends, or where a record or an object is
     closed (`Closes`).  Under that condition the lemmas speak of a numeral inside of a text, so
     that the module on settings can use them for a numeral in a whole file.

  3. **The formats**, one section for each.  TOML looks for dates and for other bases before it
     comes to a number; JSON goes digit by digit and turns to reals when the digits become too many;
     YAML tries one reading after the other; sections leave every value a text; RON and JSON5 have
     signs and other bases, which a numeral never has the letters for (`not_mem_signed`).

  4. **All formats** — `Format.scalar?` is put together from the readers, and what it gives for a
     numeral is told once for all of them.

  How near the real is to the number, where a format takes the numeral for one, is not told of.

  Main statement: `scalar?_signed`.
-/

namespace PushToTalk.Config

open Text.Numeral (digits digitValue isDigit ofInt signed signed_cases signed_injective value)

variable {c : Char} {ds word rest : List Char} {n : Int}

/-- Whether a whole number has 64 bits, one of them for its sign. -/
def fits (n : Int) : Bool := -Int.pow 2 63 ≤ n && n < Int.pow 2 63

/-- The scalar that a format takes a whole word for where a value is due. That a word inside of a
file is read likewise is shown in the module on settings (`Format.read_portText`). -/
def Format.scalar? (format : Format) (word : List Char) : Option Scalar :=
  match format with
  | .toml => ((Toml.Document.readBare word []).filter fun r => r.2.isEmpty).map (·.1)
  | .json =>
    match PushToTalk.Json.readNumber word with
    | .ok (number, []) => some (Json.scalarOf number)
    | _ => none
  | .yaml => Yaml.Plain.scalar? word
  | .ini => ((Ini.readValue word).filter fun r => r.2.isEmpty).map fun r => .text r.1
  | .ron => ((Ron.readNumber word).filter fun r => r.2.isEmpty).map (·.1)
  | .json5 => ((Json5.readNumber word).filter fun r => r.2.isEmpty).map (·.1)

/-- The bounds of 64 bits, written out. -/
theorem fits_iff : fits n = true ↔ -9223372036854775808 ≤ n ∧ n < 9223372036854775808 := by
  unfold fits
  rw [Bool.and_eq_true, decide_eq_true_eq, decide_eq_true_eq]
  rfl

/-! ## Digits -/

/-- A digit of tens is a digit of sixteens as well. -/
theorem hexDigit?_of_isDigit (h : isDigit c = true) : Text.hexDigit? c = some (digitValue c) :=
  if_pos h

/-- The number that digits stand for, if each of them is checked. -/
theorem foldlM_digits (hds : ∀ c ∈ ds, isDigit c = true) (m : Nat) :
    ds.foldlM
        (fun n c => (Text.hexDigit? c).bind fun d => if d < 10 then some (10 * n + d) else none) m =
      some (ds.foldl (fun n c => 10 * n + digitValue c) m) := by
  induction ds generalizing m with
  | nil => rfl
  | cons c ds ih =>
    have hc := hds c List.mem_cons_self
    have hten := (PushToTalk.Json.digitChar_digitValue hc).1
    rw [List.foldlM_cons, hexDigit?_of_isDigit hc]
    simp only [Option.bind_some, if_pos hten, Option.bind_eq_bind, List.foldl_cons]
    exact ih (fun d hd => hds d (List.mem_cons_of_mem c hd)) _

/-- There is a digit at least, and it comes first. -/
theorem exists_digits (m : Nat) : ∃ c ds, digits m = c :: ds ∧ isDigit c = true := by
  rcases PushToTalk.Json.digits_eq_cons m with ⟨-, h⟩ | ⟨c, ds, h, -, hc⟩
  · exact ⟨'0', [], h, by decide⟩
  · exact ⟨c, ds, h, hc⟩

/-- The digits of a number are never empty, which some readers ask for. -/
theorem isEmpty_digits (m : Nat) : (digits m).isEmpty = false :=
  List.isEmpty_eq_false_iff.2 (Text.Numeral.digits_ne_nil m)

/-- Behind a leading zero a numeral is over, so what stands there is what stands behind the whole
numeral. -/
theorem head_of_digits_eq_zero_cons {m : Nat} {more : List Char}
    (he : digits m ++ rest = '0' :: c :: more) : c ∈ rest.head? := by
  rcases PushToTalk.Json.digits_eq_cons m with ⟨-, h⟩ | ⟨d, ds, h, hzero, -⟩
  · rw [h] at he
    have hrest : rest = c :: more := (List.cons.inj he).2
    rw [hrest, List.head?_cons]
    exact Option.mem_some_self c
  · rw [h] at he
    exact absurd (List.cons.inj he).1 hzero

/-- What holds of the ten digits holds of every digit. So a condition on digits is checked by
computation, on ten characters. -/
theorem forall_digit {p : Char → Bool} (h : "0123456789".toList.all p = true)
    (hc : isDigit c = true) : p c = true := by
  obtain ⟨hten, hchar⟩ := PushToTalk.Json.digitChar_digitValue hc
  have all : ∀ d ∈ List.range 10, Text.Numeral.digitChar d ∈ "0123456789".toList := by decide
  exact List.all_eq_true.1 h c (hchar ▸ all _ (List.mem_range.2 hten))

/-- What may stand behind a numeral: nothing, or the sign that closes a record or an object. Without
a condition of this kind the numeral could go on. -/
def Closes (rest : List Char) : Prop := ∀ c ∈ rest.head?, c = ')' ∨ c = '\x7d'

/-- A numeral may be all that is left of a text. -/
theorem closes_nil : Closes [] := by
  intro c hc
  cases hc

/-- A numeral may stand in front of one of the two closing signs, whatever comes behind that. -/
theorem closes_cons (h : c = ')' ∨ c = '\x7d') (rest : List Char) : Closes (c :: rest) := by
  rintro d ⟨⟩
  exact h

/-- What holds of neither closing sign holds of no character that comes next. -/
theorem Closes.head {p : Char → Bool} (hrest : Closes rest) (hround : p ')' = false)
    (hcurly : p '\x7d' = false) : ∀ c ∈ rest.head?, p c = false := by
  intro c hc
  rcases hrest c hc with rfl | rfl
  · exact hround
  · exact hcurly

/-- Whatever is taken of digits and not of a closing sign takes the whole of a numeral, and stops
behind it. -/
theorem takeWhile_digits {p : Char → Bool} (h : "0123456789".toList.all p = true) (m : Nat)
    (hrest : ∀ c ∈ rest.head?, p c = false) : (digits m ++ rest).takeWhile p = digits m := by
  rw [List.takeWhile_append_of_pos fun c hc =>
    forall_digit h (Text.Numeral.isDigit_of_mem_digits m c hc)]
  cases rest with
  | nil => rw [List.takeWhile_nil, List.append_nil]
  | cons c rest => rw [List.takeWhile_cons, hrest c rfl, if_neg Bool.false_ne_true, List.append_nil]

/-- The characters of a numeral. -/
def isNumeralChar (c : Char) : Bool := c == '-' || isDigit c

/-- What holds of the minus sign and the ten digits holds of all that is in a numeral. -/
theorem forall_numeralChar {p : Char → Bool} (hminus : p '-' = true)
    (hdigits : "0123456789".toList.all p = true) (hc : isNumeralChar c = true) : p c = true := by
  rcases Bool.or_eq_true _ _ ▸ hc with hc | hc
  · rwa [beq_iff_eq.1 hc]
  · exact forall_digit hdigits hc

/-- A numeral is made of digits, with a minus sign in front of them or not. -/
theorem isNumeralChar_of_mem : ∀ c ∈ signed n, isNumeralChar c = true := by
  have hdigits : ∀ m, ∀ c ∈ digits m, isNumeralChar c = true := fun m c hc => by
    rw [isNumeralChar, Text.Numeral.isDigit_of_mem_digits m c hc, Bool.or_true]
  intro c hc
  obtain ⟨m, -, h⟩ | ⟨m, -, -, h⟩ := signed_cases n
  · exact hdigits m c (h ▸ hc)
  · rw [h] at hc
    rcases List.mem_cons.1 hc with rfl | hc
    · decide
    · exact hdigits m c hc

/-- A word with a letter in it is no numeral. -/
theorem ofList_signed_ne {s : String} (h : s.toList.all isNumeralChar = false) :
    String.ofList (signed n) ≠ s := by
  rintro rfl
  rw [String.toList_ofList, List.all_eq_false] at h
  obtain ⟨c, hc, hno⟩ := h
  exact hno (isNumeralChar_of_mem c hc)

/-- No other character is in a numeral, so the readers find no letter, blank or quote in it. -/
theorem not_mem_signed (h : isNumeralChar c = false) : c ∉ signed n := by
  intro hc
  rw [isNumeralChar_of_mem c hc] at h
  cases h

/-- The digits behind the minus sign of a numeral, and what stands behind the numeral. -/
theorem append_eq_minus {body : List Char} (h : signed n ++ rest = '-' :: body) :
    ∃ m : Nat, n = -m ∧ digits m ++ rest = body := by
  obtain ⟨m, -, hm⟩ | ⟨m, rfl, -, hm⟩ := signed_cases n
  · obtain ⟨c, ds, hds, hc⟩ := exists_digits m
    rw [hm, hds] at h
    cases h
    exact absurd hc (by decide)
  · rw [hm] at h
    cases h
    exact ⟨m, rfl, rfl⟩

/-- The digits behind the minus sign of a numeral, where nothing follows. -/
theorem signed_eq_minus {body : List Char} (h : signed n = '-' :: body) :
    ∃ m : Nat, n = -m ∧ digits m = body := by
  rw [← List.append_nil (signed n)] at h
  obtain ⟨m, hn, hm⟩ := append_eq_minus h
  exact ⟨m, hn, by rwa [List.append_nil] at hm⟩

/-- A numeral never has a plus sign, although most formats would take one. -/
theorem append_ne_plus {body : List Char} : signed n ++ rest ≠ '+' :: body := by
  obtain ⟨c, ds, h, hc⟩ := PushToTalk.Json.signed_eq_cons n
  rw [h]
  rintro ⟨⟩
  rcases hc with ⟨hc, -⟩ | ⟨hc, -⟩
  · exact absurd hc (by decide)
  · exact absurd hc (by decide)

/-- Without a minus sign in front a numeral is made of digits only. -/
theorem signed_eq_digits (h : ∀ body, signed n = '-' :: body → False) :
    ∃ m : Nat, n = m ∧ signed n = digits m := by
  obtain hm | ⟨m, -, -, hm⟩ := signed_cases n
  · exact hm
  · exact (h _ hm).elim

/-- Behind its sign, if it has one, a numeral is a run of digits. The three cases are those in which
the readers take a sign off: a minus, a plus, or neither. -/
theorem exists_body {negative : Bool} {body : List Char}
    (h : signed n ++ rest = '-' :: body ∧ negative = true ∨ signed n ++ rest = '+' :: body ∨
      (∀ more, signed n ++ rest = '-' :: more → False) ∧ signed n ++ rest = body ∧
        negative = false) :
    ∃ m, digits m ++ rest = body ∧ (if negative then -(m : Int) else m) = n := by
  rcases h with ⟨he, rfl⟩ | he | ⟨hminus, rfl, rfl⟩
  · obtain ⟨m, rfl, hm⟩ := append_eq_minus he
    exact ⟨m, hm, rfl⟩
  · exact absurd he append_ne_plus
  · obtain ⟨m, rfl, hm⟩ := signed_eq_digits fun body hm => hminus (body ++ rest) (by rw [hm]; rfl)
    exact ⟨m, by rw [hm], rfl⟩

/-! ## TOML -/

namespace Toml

/-- TOML has digits of several bases, told apart by their value. -/
theorem isDigitOf_ten (h : isDigit c = true) : Number.isDigitOf 10 c = true := by
  unfold Number.isDigitOf
  rw [hexDigit?_of_isDigit h]
  exact decide_eq_true (PushToTalk.Json.digitChar_digitValue h).1

/-- A run of digits is taken in whole: there is no underscore in it that would need digits around
it. -/
theorem readRun_digits (hds : ∀ c ∈ ds, isDigit c = true) (hc : isDigit c = true) :
    Number.readRun 10 c ds = some (ds, []) := by
  induction ds generalizing c with
  | nil =>
    have hne : (c == '_') = false := by
      rw [beq_eq_false_iff_ne]
      rintro rfl
      exact absurd hc (by decide)
    rw [Number.readRun, hne]
    rfl
  | cons d ds ih =>
    have hd := hds d List.mem_cons_self
    rw [Number.readRun, isDigitOf_ten hd, if_pos rfl,
      ih (fun e he => hds e (List.mem_cons_of_mem d he)) hd]
    rfl

/-- The digits of a number are taken in whole, because they do not start with a zero unless that
is all. -/
theorem readDigits_digits (m : Nat) : Number.readDigits 10 false (digits m) = some (digits m, []) := by
  rcases PushToTalk.Json.digits_eq_cons m with ⟨-, h⟩ | ⟨c, ds, h, hzero, hc⟩
  · rw [h]
    rfl
  · -- TOML refuses a leading zero, and here there is none
    have hds : ∀ d ∈ ds, isDigit d = true := fun d hd =>
      Text.Numeral.isDigit_of_mem_digits m d (h ▸ List.mem_cons_of_mem c hd)
    have hne : (c == '0') = false := by rwa [beq_eq_false_iff_ne]
    rw [h, Number.readDigits, isDigitOf_ten hc, readRun_digits hds hc]
    simp [hne]

/-- Their value is the one that all formats give to digits of tens. -/
theorem valueOf_digits (hds : ∀ c ∈ ds, isDigit c = true) : Number.valueOf 10 ds = value ds := by
  unfold Number.valueOf value
  refine List.foldl_ext _ _ _ fun m c hc => ?_
  rw [hexDigit?_of_isDigit (hds c hc), Option.getD_some]

/-- With its sign a numeral is read as the number that it was written for, if that has a place in
64 bits. -/
theorem readWhole_signed (n : Int) : Number.readWhole (signed n) = Number.bounded n := by
  have hvalue : ∀ m, Number.valueOf 10 (digits m) = m := fun m => by
    rw [valueOf_digits (Text.Numeral.isDigit_of_mem_digits m), Text.Numeral.value_digits]
  obtain ⟨m, rfl, h⟩ | ⟨m, rfl, -, h⟩ := signed_cases n
  · -- no sign is taken off, for a digit comes first
    have hsign : Number.readSign (digits m) = (false, digits m) := by
      unfold Number.readSign
      split
      · next rest he =>
        exact absurd (he ▸ Text.Numeral.isDigit_of_mem_digits m) fun hall =>
          absurd (hall '-' List.mem_cons_self) (by decide)
      · rfl
    rw [h, Number.readWhole, hsign]
    simp only [readDigits_digits, hvalue]
    rfl
  · rw [h, Number.readWhole]
    simp only [Number.readSign, readDigits_digits, hvalue]
    rfl

/-- A numeral that is a word by itself is a whole number. -/
theorem read_signed (n : Int) :
    Number.read (signed n) [] = (Number.bounded n).map fun s => (s, []) := by
  have hletter : ∀ letter, isNumeralChar letter = false →
      ∀ rest : List Char, signed n ≠ '0' :: letter :: rest := by
    rintro letter hno rest he
    exact not_mem_signed hno (he ▸ List.mem_cons_of_mem _ List.mem_cons_self)
  have hexponent : ((signed n).contains 'e' || (signed n).contains 'E') = false := by
    have hlower : 'e' ∉ signed n := not_mem_signed (by decide)
    have hupper : 'E' ∉ signed n := not_mem_signed (by decide)
    simp [hlower, hupper]
  -- what would make it a number of another base, an exponent or a special real is not in a numeral
  unfold Number.read
  split
  · next he => exact absurd he (hletter 'x' (by decide) _)
  · next he => exact absurd he (hletter 'o' (by decide) _)
  · next he => exact absurd he (hletter 'b' (by decide) _)
  · rw [hexponent]
    simp only [Bool.false_eq_true, if_false]
    split
    · next he => exact absurd he (ofList_signed_ne (by decide))
    · next he => exact absurd he (ofList_signed_ne (by decide))
    · next he => exact absurd he (ofList_signed_ne (by decide))
    · next he => exact absurd he (ofList_signed_ne (by decide))
    · rw [readWhole_signed]

/-- A numeral is no date: a minus sign comes first or not at all, and there are no letters in it. -/
theorem isDate_signed (n : Int) : Document.isDate (signed n) = false := by
  have hupper : 'T' ∉ signed n := not_mem_signed (by decide)
  have hlower : 't' ∉ signed n := not_mem_signed (by decide)
  have htail : '-' ∉ (signed n).tail := by
    have hdigits : ∀ m, '-' ∉ digits m := fun m hm =>
      absurd (Text.Numeral.isDigit_of_mem_digits m '-' hm) (by decide)
    obtain ⟨m, -, h⟩ | ⟨m, -, -, h⟩ := signed_cases n
    · exact fun hm => hdigits m (h ▸ List.mem_of_mem_tail hm)
    · rw [h]
      exact hdigits m
  simp [Document.isDate, hupper, hlower, htail]

/-- TOML refuses a whole number that does not fit. -/
theorem readBare_signed (n : Int) :
    Document.readBare (signed n) [] = (Number.bounded n).map fun s => (s, []) := by
  obtain ⟨c, ds, h, hc⟩ := PushToTalk.Json.signed_eq_cons n
  have hbegins : (c == '-' || isDigit c) = true := by
    rcases hc with ⟨rfl, -⟩ | ⟨hc, -⟩ <;> simp [*]
  have hdate := isDate_signed n
  have hread := read_signed n
  rw [h] at hdate hread ⊢
  -- neither `true` nor `false`, and no date, so it is read as a number
  unfold Document.readBare
  split
  · next he => exact absurd (h ▸ he) (ofList_signed_ne (by decide))
  · next he => exact absurd (h ▸ he) (ofList_signed_ne (by decide))
  · simp [hbegins, hdate, hread]

end Toml

/-! ## JSON -/

namespace Json

/-- A numeral that fits is read as a whole number, which is told in the module on numbers of
JSON. -/
theorem readNumber_signed (h : fits n = true) :
    PushToTalk.Json.readNumber (signed n) = .ok (.whole n, []) := by
  obtain ⟨hlow, hhigh⟩ := fits_iff.1 h
  have hread : PushToTalk.Json.readNumber (signed n ++ []) = .ok (.whole n, []) :=
    PushToTalk.Json.readNumber_signed ⟨hlow, by omega⟩ fun c hc => by cases hc
  rwa [List.append_nil] at hread

/-- Behind digits that are over there is no point and no exponent, so the number is whole, unless it
is too long or a negative one without a place among the whole numbers. -/
theorem readTail_closes (negative : Bool) (significand left : Nat) (hrest : Closes rest) :
    PushToTalk.Json.readTail negative significand left rest =
      if left != 0 then PushToTalk.Json.finishReal negative significand left rest
      else if !negative then .ok (.whole significand, rest)
      else if significand = 0 || Nat.pow 2 63 < significand then
        .ok (PushToTalk.Json.signedReal true significand.toUInt64.toFloat, rest)
      else .ok (.whole (-significand), rest) := by
  cases rest with
  | nil => rfl
  | cons c rest => rcases hrest c rfl with rfl | rfl <;> rfl

/-- The digits of a numeral are all taken in, and what stands behind them is left. -/
theorem readDigits_digits (negative : Bool) (m : Nat) (hrest : Closes rest) :
    PushToTalk.Json.readDigits negative (digits m ++ rest) =
      PushToTalk.Json.readTail negative (PushToTalk.Json.takeDigits 0 (digits m)).1
        (PushToTalk.Json.takeDigits 0 (digits m)).2.length rest := by
  have hdigit : ∀ c ∈ rest.head?, isDigit c = false := hrest.head (by decide) (by decide)
  have htake : (digits m ++ rest).takeWhile isDigit = digits m :=
    takeWhile_digits (by decide) m hdigit
  have hdrop : (digits m ++ rest).dropWhile isDigit = rest := by
    have hboth := List.takeWhile_append_dropWhile (p := isDigit) (l := digits m ++ rest)
    rw [htake] at hboth
    exact List.append_cancel_left hboth
  rcases PushToTalk.Json.digits_eq_cons m with ⟨-, h⟩ | ⟨c, ds, h, hzero, hc⟩
  · -- a zero is taken by itself, and no digit may follow it
    rw [h]
    cases rest with
    | nil => rfl
    | cons d rest =>
      show (if isDigit d then _ else _) = _
      rw [hdigit d rfl]
      rfl
  · rw [h] at htake hdrop ⊢
    rw [List.cons_append] at htake hdrop ⊢
    unfold PushToTalk.Json.readDigits
    split
    · next he => cases he
    · next he => exact absurd (List.cons.inj he).1 hzero
    · next he =>
      obtain ⟨rfl, -⟩ := List.cons.inj he
      simp only [hc, htake, hdrop]
      rfl

/-- A numeral in front of a closing sign is read as it is by itself, and nothing is left of it. What
is lost is only where a mistake would have been found. -/
theorem toOption_readNumber (n : Int) (hrest : Closes rest) :
    (PushToTalk.Json.readNumber (signed n ++ rest)).toOption =
      (PushToTalk.Json.readNumber (signed n)).toOption.map fun r => (r.1, rest) := by
  -- where a number ends, only the place of a mistake hangs on what follows
  have htail : ∀ negative significand left,
      (PushToTalk.Json.readTail negative significand left rest).toOption =
        (PushToTalk.Json.readTail negative significand left []).toOption.map fun r =>
          (r.1, rest) := by
    intro negative significand left
    rw [readTail_closes _ _ _ hrest, readTail_closes _ _ _ closes_nil]
    unfold PushToTalk.Json.finishReal
    repeat' split
    all_goals rfl
  have hdigits : ∀ negative m,
      (PushToTalk.Json.readDigits negative (digits m ++ rest)).toOption =
        (PushToTalk.Json.readDigits negative (digits m)).toOption.map fun r => (r.1, rest) := by
    intro negative m
    have halone := readDigits_digits negative m closes_nil
    rw [List.append_nil] at halone
    rw [readDigits_digits negative m hrest, halone, htail]
  have hplain : ∀ (m : Nat) (more : List Char),
      PushToTalk.Json.readNumber (digits m ++ more) =
        PushToTalk.Json.readDigits false (digits m ++ more) := by
    intro m more
    obtain ⟨c, ds, hds, hc⟩ := exists_digits m
    rw [hds, List.cons_append]
    unfold PushToTalk.Json.readNumber
    split
    · next he =>
      cases he
      exact absurd hc (by decide)
    · rfl
  obtain ⟨m, -, h⟩ | ⟨m, -, -, h⟩ := signed_cases n
  · have halone := hplain m []
    rw [List.append_nil] at halone
    rw [h, hplain, halone, hdigits]
  · rw [h]
    exact hdigits true m

/-- JSON takes a number that does not fit for a real. -/
theorem scalarOf_readNumber {number : PushToTalk.Json.Number} (h : fits n = false)
    (hread : PushToTalk.Json.readNumber (signed n) = .ok (number, rest)) :
    ∃ x, scalarOf number = .real x := by
  cases number with
  | real x => exact ⟨x, rfl⟩
  | whole i =>
    have hover := toOption_readNumber n closes_nil
    rw [List.append_nil, hread] at hover
    obtain rfl : rest = [] := congrArg Prod.snd (Option.some.inj hover)
    obtain ⟨⟨hlow, -⟩, hsame⟩ := PushToTalk.Json.readNumber_whole hread
    rw [List.append_nil] at hsame
    obtain rfl := signed_injective hsame
    -- the reader goes up to 64 bits without a sign, so a large whole number may still come out
    have hlarge : ¬ n < Int.pow 2 63 := by
      intro hlt
      rw [fits_iff.2 ⟨hlow, hlt⟩] at h
      cases h
    exact ⟨Float.ofInt n, if_neg hlarge⟩

end Json

/-! ## YAML -/

namespace Yaml

/-- The digits of a number have that number for their value. -/
theorem value?_digits (m : Nat) : Plain.value? 10 (digits m) = some m := by
  unfold Plain.value?
  rw [isEmpty_digits, foldlM_digits (Text.Numeral.isDigit_of_mem_digits m)]
  exact congrArg some (Text.Numeral.value_digits m)

/-- With its sign a numeral is a whole number if it fits, and nothing if it does not. -/
theorem whole?_signed (n : Int) :
    Plain.whole? 10 (signed n) = if fits n then some n else none := by
  have hfilter : ∀ i : Int, (some i).filter (fun n => -Int.pow 2 63 ≤ n && n < Int.pow 2 63) =
      if fits i then some i else none := fun _ => rfl
  rw [← hfilter n]
  obtain ⟨m, rfl, h⟩ | ⟨m, rfl, -, h⟩ := signed_cases n
  · -- a digit is no sign
    obtain ⟨c, ds, hds, hc⟩ := exists_digits m
    have hvalue := value?_digits m
    rw [h]
    rw [hds] at hvalue ⊢
    unfold Plain.whole?
    split
    · next he =>
      cases he
      exact absurd hc (by decide)
    · next he =>
      cases he
      exact absurd hc (by decide)
    · rw [hvalue]
      rfl
  · rw [h]
    unfold Plain.whole?
    simp only [value?_digits]
    rfl

/-- The readings that are tried first, with a base or a plus sign, do not apply to a numeral. -/
theorem spelledWhole?_signed (n : Int) :
    Plain.spelledWhole? (signed n) = if fits n then some n else none := by
  have hno : ∀ letter, isNumeralChar letter = false → letter ∉ signed n := fun _ => not_mem_signed
  rw [← whole?_signed]
  unfold Plain.spelledWhole?
  split
  · next he => exact absurd (he ▸ by simp) (hno 'x' (by decide))
  · next he => exact absurd (he ▸ by simp) (hno 'o' (by decide))
  · next he => exact absurd (he ▸ by simp) (hno '+' (by decide))
  · rfl

/-- Every numeral can be read as a real. -/
theorem decimal?_digits (negative : Bool) (m : Nat) :
    ∃ x, Plain.decimal? negative (digits m) = some x := by
  have htake : (digits m).takeWhile isDigit = digits m :=
    List.takeWhile_eq_self_iff.2 (Text.Numeral.isDigit_of_mem_digits m)
  have hdrop : (digits m).dropWhile isDigit = [] :=
    List.dropWhile_eq_nil_iff.2 (Text.Numeral.isDigit_of_mem_digits m)
  unfold Plain.decimal?
  simp [htake, hdrop, isEmpty_digits]

/-- A numeral can be read as a real, whichever sign it has. It is tried only where the number
does not fit. -/
theorem real?_signed (n : Int) : ∃ x, Plain.real? (signed n) = some x := by
  unfold Plain.real?
  split
  next negative body hsign =>
  obtain ⟨m, rfl, -⟩ : ∃ m, digits m ++ [] = body ∧ (if negative then -(m : Int) else m) = n := by
    rw [← List.append_nil (signed n)] at hsign
    split at hsign <;> cases hsign
    · next he => exact exists_body (.inl ⟨he, rfl⟩)
    · next he => exact exists_body (.inr (.inl he))
    · next hminus _ => exact exists_body (.inr (.inr ⟨hminus, rfl, rfl⟩))
  rw [List.append_nil]
  split
  · exact ⟨_, rfl⟩
  · exact ⟨_, rfl⟩
  · exact ⟨_, rfl⟩
  · exact decimal?_digits negative m

/-- YAML takes a number that fits for a whole one, since that is tried first. -/
theorem scalar?_of_fits (h : fits n = true) : Plain.scalar? (signed n) = some (.whole n) := by
  unfold Plain.scalar?
  rw [spelledWhole?_signed, if_pos h]

/-- YAML takes a number that does not fit for a real. -/
theorem scalar?_of_not_fits (h : fits n = false) :
    ∃ x, Plain.scalar? (signed n) = some (.real x) := by
  obtain ⟨x, hx⟩ := real?_signed n
  have hreadable : Plain.isUnreadable (String.ofList (signed n)) = false := by
    unfold Plain.isUnreadable
    rw [← Bool.not_eq_true, List.contains_iff_mem]
    intro hm
    have hletters : ∀ s ∈ [".inf", ".Inf", ".INF", "+.inf", "+.Inf", "+.INF", "-.inf", "-.Inf",
        "-.INF", ".nan", ".NAN"], s.toList.all isNumeralChar = false := by decide
    exact ofList_signed_ne (hletters _ hm) rfl
  refine ⟨x, ?_⟩
  -- none of the words with a meaning of their own is a numeral, so the reading as a real is reached
  unfold Plain.scalar?
  rw [spelledWhole?_signed, h]
  simp only [Bool.false_eq_true, if_false]
  split
  · next he => cases he
  · next he _ => exact absurd he (ofList_signed_ne (by decide))
  · next he _ => exact absurd he (ofList_signed_ne (by decide))
  · next he _ => exact absurd he (ofList_signed_ne (by decide))
  · next he _ => exact absurd he (ofList_signed_ne (by decide))
  · rw [hreadable, hx]
    rfl

end Yaml

/-! ## Sections -/

namespace Ini

/-- A value goes up to the end of its line, and what has no backslash in it stands for itself. -/
theorem readUntil_plain {fuel : Nat} (hplain : ∀ c ∈ word, isBreak c = false ∧ c ≠ '\\')
    (hfuel : word.length < fuel) : readUntil isBreak true fuel word = some (word, []) := by
  induction word generalizing fuel with
  | nil =>
    obtain ⟨fuel, rfl⟩ := Nat.exists_eq_succ_of_ne_zero (Nat.ne_of_gt hfuel)
    rfl
  | cons c word ih =>
    obtain ⟨fuel, rfl⟩ := Nat.exists_eq_succ_of_ne_zero (Nat.ne_of_gt (Nat.zero_lt_of_lt hfuel))
    obtain ⟨hbreak, hslash⟩ := hplain c List.mem_cons_self
    have hrest := ih (fun d hd => hplain d (List.mem_cons_of_mem c hd))
      (Nat.lt_of_succ_lt_succ hfuel)
    unfold readUntil
    simp [hbreak, hslash, hrest]

/-- Without blanks at either end nothing is cut off. -/
theorem trim_plain (hplain : ∀ c ∈ word, Text.isBlank c = false) : trim word = String.ofList word := by
  have hdrop : ∀ cs : List Char, (∀ c ∈ cs, Text.isBlank c = false) →
      cs.dropWhile Text.isBlank = cs := by
    intro cs hcs
    cases cs with
    | nil => rfl
    | cons c rest => rw [List.dropWhile_cons, hcs c List.mem_cons_self]; rfl
  rw [trim, hdrop word hplain, hdrop word.reverse fun c hc => hplain c (List.mem_reverse.1 hc),
    List.reverse_reverse]

/-- In sections every numeral stays a text. -/
theorem readValue_signed (n : Int) : readValue (signed n) = some (ofInt n, []) := by
  -- nothing in a numeral is a blank, a line break, a backslash or a quote
  have hplain : ∀ c ∈ signed n, Text.isBlank c = false ∧ isBreak c = false ∧ c ≠ '\\' ∧
      c ≠ '"' ∧ c ≠ '\'' := fun c hc => by
    have hall := forall_numeralChar
      (p := fun c => !Text.isBlank c && !isBreak c && c != '\\' && c != '"' && c != '\'')
      (by decide) (by decide) (isNumeralChar_of_mem c hc)
    simpa [and_assoc] using hall
  have hline : readUntil isBreak true ((signed n).length + 1) (signed n) = some (signed n, []) :=
    readUntil_plain (fun c hc => ⟨(hplain c hc).2.1, (hplain c hc).2.2.1⟩) (Nat.lt_succ_self _)
  have htrim : trim (signed n) = ofInt n := trim_plain fun c hc => (hplain c hc).1
  obtain ⟨c, ds, h, -⟩ := PushToTalk.Json.signed_eq_cons n
  obtain ⟨hblank, -, -, hdouble, hsingle⟩ := hplain c (h ▸ List.mem_cons_self)
  rw [h] at hline htrim ⊢
  rw [List.length_cons] at hline
  unfold readValue
  simp [hblank, hdouble, hsingle, hline, htrim]

end Ini

/-! ## RON -/

namespace Ron

/-- The digits of a number have that number for their value, and no underscores to be left out. -/
theorem wholeOf?_digits (m : Nat) : wholeOf? 10 (digits m) = some m := by
  have hdigits := Text.Numeral.isDigit_of_mem_digits m
  have hplain : (digits m).filter (· != '_') = digits m := by
    rw [List.filter_eq_self]
    intro c hc
    rw [bne_iff_ne]
    rintro rfl
    exact absurd (hdigits '_' hc) (by decide)
  unfold wholeOf?
  dsimp only
  rw [hplain, isEmpty_digits, foldlM_digits hdigits]
  exact congrArg some (Text.Numeral.value_digits m)

/-- RON takes a whole number that does not fit for a real. -/
theorem readNumber_signed (n : Int) (hrest : Closes rest) :
    readNumber (signed n ++ rest) =
      some (if fits n then .whole n else .real (Float.ofInt n), rest) := by
  have hreal : ∀ m : Nat, (digits m ++ rest).takeWhile isRealChar = digits m := fun m =>
    takeWhile_digits (by decide) m (hrest.head (by decide) (by decide))
  have hname : ∀ m : Nat, (digits m ++ rest).takeWhile (fun c => isNameChar c) = digits m :=
    fun m => takeWhile_digits (by decide) m (hrest.head (by decide) (by decide))
  have hany : ∀ m : Nat, ((digits m).any fun c => c == '.' || c == 'e' || c == 'E') = false := by
    intro m
    rw [List.any_eq_false]
    intro c hc
    have hplain := forall_digit (p := fun c => !(c == '.' || c == 'e' || c == 'E')) (by decide)
      (Text.Numeral.isDigit_of_mem_digits m c hc)
    simpa using hplain
  -- no letter of another base comes behind a leading zero
  have hletter : ∀ (m : Nat) (letter : Char) (more : List Char), letter ∈ ['x', 'o', 'b'] →
      digits m ++ rest ≠ '0' :: letter :: more := by
    intro m letter more hletter he
    have hno := hrest.head (p := fun c => ['x', 'o', 'b'].contains c) (by decide) (by decide) letter
      (head_of_digits_eq_zero_cons he)
    exact absurd hletter (by rwa [← List.contains_iff_mem, Bool.not_eq_true])
  unfold readNumber
  split
  next sign body hsign =>
  obtain ⟨m, rfl, hn⟩ :
      ∃ m, digits m ++ rest = body ∧ (if sign.getD false then -(m : Int) else m) = n := by
    split at hsign <;> cases hsign
    · next he => exact exists_body (.inl ⟨he, rfl⟩)
    · next he => exact exists_body (.inr (.inl he))
    · next hminus _ => exact exists_body (.inr (.inr ⟨hminus, rfl, rfl⟩))
  split
  · next he => exact absurd he (hletter m _ _ (by decide))
  · next he => exact absurd he (hletter m _ _ (by decide))
  · next he => exact absurd he (hletter m _ _ (by decide))
  · -- neither a point nor an exponent is among the digits, so it is a whole number if it fits
    dsimp only
    rw [hreal, hany, if_neg Bool.false_ne_true, hname, wholeOf?_digits, Option.bind_some,
      List.drop_left, hn]
    unfold fits
    split <;> rfl

end Ron

/-! ## JSON5 -/

namespace Json5

/-- Without a base, digits that are over give a whole number or are refused. -/
theorem readDecimal_digits (negative : Bool) (m : Nat) (hrest : Closes rest) :
    readDecimal negative (digits m ++ rest) =
      if fits (if negative then -(m : Int) else m) then
        some (.whole (if negative then -(m : Int) else m), rest)
      else none := by
  have htake : (digits m ++ rest).takeWhile isDigit = digits m :=
    takeWhile_digits (by decide) m (hrest.head (by decide) (by decide))
  unfold readDecimal fits
  extract_lets whole behind number
  -- a leading zero is taken by itself, but then it is all there is
  have hwhole : whole = digits m := by
    simp only [whole]
    split
    · next more he =>
      rcases PushToTalk.Json.digits_eq_cons m with ⟨-, h⟩ | ⟨c, ds, h, hzero, -⟩
      · exact h.symm
      · rw [h] at he
        exact absurd (List.cons.inj he).1 hzero
    · exact htake
  have hbehind : behind = rest := by
    show (digits m ++ rest).drop whole.length = rest
    rw [hwhole, List.drop_left]
  have hnumber : number = if negative then -(m : Int) else m := by
    show (if negative then -(value whole : Int) else value whole) = _
    rw [hwhole, Text.Numeral.value_digits]
  rw [hwhole, hbehind, hnumber]
  simp only [isEmpty_digits]
  -- neither a point nor an exponent follows
  cases rest with
  | nil => rfl
  | cons c rest => rcases hrest c rfl with rfl | rfl <;> rfl

/-- JSON5 refuses a whole number that does not fit. -/
theorem readNumber_signed (n : Int) (hrest : Closes rest) :
    readNumber (signed n ++ rest) = if fits n then some (.whole n, rest) else none := by
  unfold readNumber
  split
  next sign body hsign =>
  obtain ⟨m, rfl, rfl⟩ :
      ∃ m, digits m ++ rest = body ∧ (if sign.getD false then -(m : Int) else m) = n := by
    split at hsign <;> cases hsign
    · next he => exact exists_body (.inl ⟨he, rfl⟩)
    · next he => exact exists_body (.inr (.inl he))
    · next hminus _ => exact exists_body (.inr (.inr ⟨hminus, rfl, rfl⟩))
  have hword : ∀ (letter : Char) (w : List Char), isDigit letter = false →
      (letter :: w).isPrefixOf (digits m ++ rest) = false := by
    intro letter w hno
    obtain ⟨c, ds, hds, hc⟩ := exists_digits m
    have hne : (letter == c) = false := by
      rw [beq_eq_false_iff_ne]
      rintro rfl
      rw [hno] at hc
      cases hc
    rw [hds, List.cons_append, List.isPrefixOf, hne]
    rfl
  have hinfinity : "Infinity".toList.isPrefixOf (digits m ++ rest) = false := hword 'I' _ (by decide)
  have hnan : "NaN".toList.isPrefixOf (digits m ++ rest) = false := hword 'N' _ (by decide)
  rw [← readDecimal_digits _ m hrest]
  extract_lets negative word
  split
  · next x more he =>
    have hx := hrest.head (p := fun c => c == 'x' || c == 'X') (by decide) (by decide) x
      (head_of_digits_eq_zero_cons he)
    rw [hx, if_neg Bool.false_ne_true]
  · rw [hinfinity, hnan]
    rfl

end Json5

/-! ## All formats -/

namespace Format

/-- TOML: a whole number, or refused. -/
theorem scalar?_toml (n : Int) :
    toml.scalar? (signed n) = if fits n then some (.whole n) else none := by
  unfold scalar?
  rw [Toml.readBare_signed]
  show (((if fits n then some (Scalar.whole n) else none).map fun s => (s, [])).filter _).map _ = _
  cases fits n <;> rfl

/-- JSON: what the reader of numbers makes of the numeral, which may be a real, and refused only
if that is too large for one. -/
theorem scalar?_json (n : Int) : json.scalar? (signed n) =
    (PushToTalk.Json.readNumber (signed n)).toOption.map fun r => Json.scalarOf r.1 := by
  have hover := Json.toOption_readNumber n closes_nil
  rw [List.append_nil] at hover
  unfold scalar?
  cases h : PushToTalk.Json.readNumber (signed n) with
  | error slip => rfl
  | ok r =>
    obtain ⟨number, rest⟩ := r
    rw [h] at hover
    -- the reader stops behind the numeral, so it has taken the whole word
    obtain rfl : rest = [] := congrArg Prod.snd (Option.some.inj hover)
    rfl

/-- Sections: the numeral itself, as a text. -/
theorem scalar?_ini (n : Int) : ini.scalar? (signed n) = some (.text (ofInt n)) := by
  unfold scalar?
  rw [Ini.readValue_signed]
  rfl

/-- RON: a whole number, or a real. -/
theorem scalar?_ron (n : Int) :
    ron.scalar? (signed n) = some (if fits n then .whole n else .real (Float.ofInt n)) := by
  have hread := Ron.readNumber_signed n closes_nil
  rw [List.append_nil] at hread
  unfold scalar?
  rw [hread]
  rfl

/-- JSON5: a whole number, or refused. -/
theorem scalar?_json5 (n : Int) :
    json5.scalar? (signed n) = if fits n then some (.whole n) else none := by
  have hread := Json5.readNumber_signed n closes_nil
  rw [List.append_nil] at hread
  unfold scalar?
  rw [hread]
  cases fits n <;> rfl

/-- What a format makes of the numeral of a whole number. If the number fits, it is that number, or
its text where all values are texts. If it does not, a real number may stand for it in three of the
formats, and two refuse it. -/
theorem scalar?_signed (format : Format) (n : Int) :
    (fits n = true → format.scalar? (signed n) =
      some (if format = .ini then .text (ofInt n) else .whole n)) ∧
    (fits n = false → ∀ s, format.scalar? (signed n) = some s →
      format = .ini ∧ s = .text (ofInt n) ∨
        (format = .json ∨ format = .yaml ∨ format = .ron) ∧ ∃ x, s = .real x) := by
  cases format with
  | toml =>
    rw [scalar?_toml]
    exact ⟨fun hfits => by rw [hfits]; rfl, fun hfits s hs => by rw [hfits] at hs; cases hs⟩
  | json =>
    rw [scalar?_json]
    constructor
    · intro hfits
      have hlimit : n < Int.pow 2 63 := (fits_iff.1 hfits).2
      rw [Json.readNumber_signed hfits]
      exact congrArg some (if_pos hlimit)
    · intro hfits s hs
      cases hread : PushToTalk.Json.readNumber (signed n) with
      | error slip =>
        rw [hread] at hs
        cases hs
      | ok r =>
        obtain ⟨x, hx⟩ := Json.scalarOf_readNumber hfits hread
        rw [hread] at hs
        exact Or.inr ⟨Or.inl rfl, x, (Option.some.inj hs).symm.trans hx⟩
  | yaml =>
    refine ⟨Yaml.scalar?_of_fits, fun hfits s hs => ?_⟩
    obtain ⟨x, hx⟩ := Yaml.scalar?_of_not_fits hfits
    exact Or.inr ⟨Or.inr (Or.inl rfl), x, Option.some.inj (hs.symm.trans hx)⟩
  -- in this format every value is a text
  | ini =>
    have h := scalar?_ini n
    exact ⟨fun _ => h, fun _ s hs => Or.inl ⟨rfl, Option.some.inj (hs.symm.trans h)⟩⟩
  | ron =>
    rw [scalar?_ron]
    constructor
    · intro hfits
      rw [if_pos hfits]
      rfl
    · intro hfits s hs
      rw [hfits] at hs
      exact Or.inr ⟨Or.inr (Or.inr rfl), Float.ofInt n, (Option.some.inj hs).symm⟩
  | json5 =>
    rw [scalar?_json5]
    exact ⟨fun hfits => by rw [hfits]; rfl, fun hfits s hs => by rw [hfits] at hs; cases hs⟩

end Format

end PushToTalk.Config
