import PushToTalk.Json.Text
import PushToTalk.Proofs.Json.Record
import PushToTalk.Text.Split

/-
  A record is read back from the object that it is written as.

  Host, relay and backend send each other records as JSON objects, so each of them relies on this:
  what one of them writes is what the other reads.  What is written leaves the reader no choice.
  Every escape gives the character that it stands for, a number ends where its digits end, and the
  fields come in order, each under its own name.

  1. **Texts**, character by character (`readText_escapeChar`, `readText_escaped`).  Quotes,
     backslashes and controls are escaped, each of the rest stands for itself; the reader gets the
     same character back in every case.

  2. **Whole numbers** of 64 bits, with a sign or without (`readDigits_digits`,
     `readNumber_signed`).  Larger numbers are read as real ones, so they are left out.

  3. **One field** (`Field.read_chars`) — a missing value is written as `null` and read back as
     missing, which takes an optional field.

  4. **Objects** — the fields one after the other (`readEntries_writeFields`), and their order
     (`arrange_of_find`).  What is carried along is that the names of the fields to come were not
     seen before, since a name that comes twice is refused.

  The reader is bounded by the length of the text, and every field takes some of it
  (`length_writeFields`).

  Main statement: `Shape.read_write`.
-/

namespace PushToTalk.Json

open Text.Numeral (digits digitValue isDigit value)

variable {shape : Shape} {f : Field} {fields : List Field} {values : List (Option Scalar)}
  {s s' rest cs : List Char} {c : Char} {n : Nat}

/-! ## Texts -/

/-- A text that begins with an escape is the character of the escape, and the text behind it. -/
theorem readText_of_readEscape (he : readEscape s = .ok (c, s'))
    (ht : readText s' = .ok (cs, rest)) : readText ('\\' :: s) = .ok (c :: cs, rest) := by
  rw [readText]
  split
  · next he' =>
    rw [he] at he'
    cases he'
  · next he' =>
    rw [he] at he'
    cases he'
    rw [ht]

/-- A control below the space is read back from its four hexadecimal digits. -/
theorem readEscape_hex (hc : c.toNat < 32) (s : List Char) :
    readEscape ('u' :: '0' :: '0' :: hexDigit (c.toNat / 16) :: hexDigit c.toNat :: s) =
      .ok (c, s) := by
  have hdigit : ∀ n, Text.hexDigit? (hexDigit n) = some (n % 16) := by
    intro n
    have all : ∀ d ∈ List.range 16, Text.hexDigit? (Nat.digitChar d) = some d := by decide
    exact all (n % 16) (List.mem_range.2 (Nat.mod_lt _ (by omega)))
  have hzero : Text.hexDigit? '0' = some 0 := by decide
  have hnumber : 4096 * 0 + 256 * 0 + 16 * (c.toNat / 16 % 16) + c.toNat % 16 = c.toNat := by omega
  have hread : readHex ('0' :: '0' :: hexDigit (c.toNat / 16) :: hexDigit c.toNat :: s) =
      .ok (c.toNat, s) := by
    simp only [readHex, hdigit, hzero, hnumber]
  have hlow : (0xDC00 ≤ c.toNat && c.toNat ≤ 0xDFFF) = false := by
    simp only [Bool.and_eq_false_iff, decide_eq_false_iff_not]
    omega
  have hplain : (c.toNat < 0xD800 || 0xDBFF < c.toNat) = true := by
    simp only [Bool.or_eq_true, decide_eq_true_eq]
    omega
  simp only [readEscape, hread, hlow, hplain, Char.ofNat_toNat]
  rfl

/-- A character is read back from its spelling. -/
theorem readText_escapeChar (c : Char) (ht : readText s = .ok (cs, rest)) :
    readText (escapeChar c ++ s) = .ok (c :: cs, rest) := by
  unfold escapeChar
  -- first the characters that are escaped by a letter, or by themselves
  iterate 7
    split
    · next hc =>
      obtain rfl := beq_iff_eq.1 hc
      exact readText_of_readEscape rfl ht
  split
  · next hc => exact readText_of_readEscape (readEscape_hex hc s) ht
  · next hquote hslash _ _ _ _ _ hc =>
    have hquote : c ≠ '"' := by simpa using hquote
    have hslash : c ≠ '\\' := by simpa using hslash
    show readText (c :: s) = _
    rw [readText.eq_def]
    split
    · next h => cases h
    · next h =>
      cases h
      exact absurd rfl hquote
    · next h =>
      cases h
      exact absurd rfl hslash
    · next h =>
      cases h
      rw [if_neg hc, ht]

/-- A text is read back from between its quotes. -/
theorem readText_escaped (cs rest : List Char) :
    readText (cs.flatMap escapeChar ++ '"' :: rest) = .ok (cs, rest) := by
  induction cs with
  | nil =>
    show readText ('"' :: rest) = _
    rw [readText]
  | cons c cs ih =>
    rw [List.flatMap_cons, List.append_assoc]
    exact readText_escapeChar c ih

/-! ## Numbers -/

/-- The input goes on with something that does not belong to a whole number. -/
def EndsNumber (s : List Char) : Prop :=
  ∀ c ∈ s.head?, isDigit c = false ∧ c ≠ '.' ∧ c ≠ 'e' ∧ c ≠ 'E'

/-- More digits make no number smaller. -/
theorem le_foldl_digits (n : Nat) (ds : List Char) :
    n ≤ ds.foldl (fun n c => 10 * n + digitValue c) n := by
  induction ds generalizing n with
  | nil => exact Nat.le_refl n
  | cons c ds ih =>
    have h := ih (10 * n + digitValue c)
    rw [List.foldl_cons]
    omega

/-- As long as a number fits in 64 bits all its digits are taken in. -/
theorem takeDigits_eq {ds : List Char}
    (h : ds.foldl (fun n c => 10 * n + digitValue c) n < wordLimit) :
    takeDigits n ds = (ds.foldl (fun n c => 10 * n + digitValue c) n, []) := by
  induction ds generalizing n with
  | nil => rfl
  | cons c ds ih =>
    have hle := le_foldl_digits (10 * n + digitValue c) ds
    rw [List.foldl_cons] at h
    rw [takeDigits, if_pos (Nat.lt_of_le_of_lt hle h), List.foldl_cons]
    exact ih h

/-- A numeral is a single zero or does not start with one. -/
theorem digits_eq_cons (n : Nat) : n = 0 ∧ digits n = ['0'] ∨
    ∃ c ds, digits n = c :: ds ∧ c ≠ '0' ∧ isDigit c = true := by
  induction n using Nat.strongRecOn with
  | _ n ih =>
    rw [digits]
    split
    · next h =>
      have all : ∀ d ∈ List.range 10, d = 0 ∧ [Text.Numeral.digitChar d] = ['0'] ∨
          Text.Numeral.digitChar d ≠ '0' ∧ isDigit (Text.Numeral.digitChar d) = true := by decide
      rcases all n (List.mem_range.2 h) with h0 | hn
      · exact Or.inl h0
      · exact Or.inr ⟨_, [], rfl, hn⟩
    · next h =>
      rcases ih (n / 10) (by omega) with ⟨h0, -⟩ | ⟨c, ds, hds, hc⟩
      · omega
      · rw [hds]
        exact Or.inr ⟨c, ds ++ _, rfl, hc⟩

/-- Where nothing of a number follows, it is the whole number so far; negative, if it has 63 bits
and is not zero. -/
theorem readTail_end {negative : Bool} (hrest : EndsNumber rest) :
    readTail negative n 0 rest =
      if !negative then .ok (.whole n, rest)
      else if n = 0 || Nat.pow 2 63 < n then
        .ok (signedReal true n.toUInt64.toFloat, rest)
      else .ok (.whole (-n), rest) := by
  unfold readTail
  split
  · exact absurd rfl (hrest '.' rfl).2.1
  · exact absurd rfl (hrest 'e' rfl).2.2.1
  · exact absurd rfl (hrest 'E' rfl).2.2.2
  · rfl

/-- A number ends where its numeral ends. -/
theorem readDigits_digits (negative : Bool) (hn : n < wordLimit) (hrest : EndsNumber rest) :
    readDigits negative (digits n ++ rest) = readTail negative n 0 rest := by
  -- zero is read in its own way, as no digit may follow it
  rcases digits_eq_cons n with ⟨rfl, h0⟩ | ⟨c, ds, hds, hc, hdigit⟩
  · rw [h0]
    show readDigits negative ('0' :: rest) = _
    unfold readDigits
    cases rest with
    | nil => rfl
    | cons d rest =>
      have hd := (hrest d rfl).1
      show (if isDigit d then _ else _) = _
      rw [hd]
      rfl
  · have hends : ∀ d ∈ rest.head?, isDigit d = false := fun d hd => (hrest d hd).1
    obtain ⟨htake, hdrop⟩ :=
      Text.divide_append (Text.Numeral.isDigit_of_mem_digits n) rest hends
    have hvalue : takeDigits 0 (digits n) = (n, []) := by
      have hlimit : value (digits n) < wordLimit := by rwa [Text.Numeral.value_digits]
      rw [takeDigits_eq hlimit]
      show (value (digits n), _) = _
      rw [Text.Numeral.value_digits]
    have hfront : readDigits negative (digits n ++ rest) =
        let taken := takeDigits 0 ((digits n ++ rest).takeWhile isDigit)
        readTail negative taken.1 taken.2.length ((digits n ++ rest).dropWhile isDigit) := by
      rw [hds]
      show readDigits negative (c :: (ds ++ rest)) = _
      unfold readDigits
      split
      · next h => cases h
      · next h =>
        cases h
        exact absurd rfl hc
      · next h =>
        cases h
        rw [hdigit]
        rfl
    rw [hfront, htake, hdrop, hvalue]
    rfl

/-- Whole numbers of 64 bits, with a sign or without one. -/
def IsWord (n : Int) : Prop := -9223372036854775808 ≤ n ∧ n < 18446744073709551616

/-- The numeral of a whole number starts with a sign or a digit. -/
theorem signed_eq_cons (n : Int) : ∃ c ds, Text.Numeral.signed n = c :: ds ∧
    (c = '-' ∧ n < 0 ∨ isDigit c = true ∧ 0 ≤ n) := by
  unfold Text.Numeral.signed
  split
  · next h => exact ⟨'-', _, rfl, Or.inl ⟨rfl, h⟩⟩
  · next h =>
    have hn : 0 ≤ n := Int.not_lt.1 h
    rcases digits_eq_cons n.natAbs with ⟨-, hds⟩ | ⟨c, ds, hds, -, hdigit⟩
    · exact ⟨'0', [], hds, Or.inr ⟨by decide, hn⟩⟩
    · exact ⟨c, ds, hds, Or.inr ⟨hdigit, hn⟩⟩

/-- Whoever starts a number is neither a blank nor the start of a word. -/
theorem starts_number (h : c = '-' ∨ isDigit c = true) : isGap c = false ∧ c ≠ 'n' := by
  rcases h with rfl | h
  · decide
  constructor
  · by_contra hgap
    simp only [isGap, Bool.or_eq_true, beq_iff_eq, Bool.not_eq_false] at hgap
    rcases hgap with ((rfl | rfl) | rfl) | rfl <;> exact absurd h (by decide)
  · rintro rfl
    exact absurd h (by decide)

/-- A whole number is read back. -/
theorem readNumber_signed {n : Int} (hn : IsWord n) (hrest : EndsNumber rest) :
    readNumber (Text.Numeral.signed n ++ rest) = .ok (.whole n, rest) := by
  obtain ⟨hlow, hhigh⟩ := hn
  have hlimit : n.natAbs < wordLimit := by
    show n.natAbs < 18446744073709551616
    omega
  -- below zero the sign is read first, and the number must not be minus zero nor too small
  by_cases hneg : n < 0
  · have hsigned : Text.Numeral.signed n = '-' :: digits n.natAbs := if_pos hneg
    have hsize : (n.natAbs = 0 || Nat.pow 2 63 < n.natAbs) = false := by
      rw [Bool.or_eq_false_iff, decide_eq_false_iff_not, decide_eq_false_iff_not]
      refine ⟨by omega, ?_⟩
      show ¬ 9223372036854775808 < n.natAbs
      omega
    have hvalue : -(n.natAbs : Int) = n := by omega
    rw [hsigned]
    show readDigits true (digits n.natAbs ++ rest) = _
    rw [readDigits_digits true hlimit hrest, readTail_end hrest, hsize, hvalue]
    rfl
  · have hsigned : Text.Numeral.signed n = digits n.natAbs := if_neg hneg
    have hvalue : (n.natAbs : Int) = n := by omega
    have hplain : readNumber (Text.Numeral.signed n ++ rest) =
        readDigits false (Text.Numeral.signed n ++ rest) := by
      obtain ⟨c, ds, hds, ⟨-, hc⟩ | ⟨hc, -⟩⟩ := signed_eq_cons n
      · exact absurd hc hneg
      · rw [hds]
        unfold readNumber
        split
        · next h =>
          cases h
          cases hc
        · rfl
    rw [hplain, hsigned, readDigits_digits false hlimit hrest, readTail_end hrest, hvalue]
    rfl

/-! ## Fields -/

/-- What the value of a field is written as. -/
def Written.of : Option Scalar → Written
  | none => .null
  | some (.text s) => .text s
  | some (.integer n) => .integer n

/-- Nothing is skipped in front of a character that is no blank. -/
theorem skipGaps_cons (h : isGap c = false) : skipGaps (c :: s) = c :: s := by
  unfold skipGaps
  rw [List.dropWhile_cons, h]
  rfl

/-- A field's value that does not begin like `null` is read as a scalar. -/
theorem Field.read_of_readScalar {v : Scalar} (hc : isGap c = false) (hn : c ≠ 'n')
    (h : readScalar f.kind (c :: s) = .ok (v, rest)) : f.read (c :: s) = .ok (some v, rest) := by
  unfold Field.read
  dsimp only
  rw [skipGaps_cons hc, h]
  split
  · next _ hcons =>
    cases hcons
    exact absurd rfl hn
  · rfl

/-- A text is read back. -/
theorem readScalar_text (t : String) (rest : List Char) :
    readScalar .text (writeText t.toList ++ rest) = .ok (.text t, rest) := by
  have hquoted : writeText t.toList ++ rest =
      '"' :: (t.toList.flatMap escapeChar ++ '"' :: rest) := by
    simp [writeText]
  unfold readScalar
  rw [hquoted, skipGaps_cons (by decide)]
  simp only [readText_escaped, String.ofList_toList]

/-- A number is read back, if it is within the bounds of its field. -/
theorem readScalar_integer {low high n : Int} {name : String} (hbounds : low ≤ n ∧ n ≤ high)
    (hn : IsWord n) (hrest : EndsNumber rest) :
    readScalar (.integer low high name) (Text.Numeral.signed n ++ rest) =
      .ok (.integer n, rest) := by
  have hread := readNumber_signed hn hrest
  obtain ⟨c, ds, hds, hc⟩ := signed_eq_cons n
  have hc : c = '-' ∨ isDigit c = true := hc.imp And.left And.left
  have hstart : (c == '-' || isDigit c) = true := by simpa using hc
  rw [hds, List.cons_append] at hread ⊢
  unfold readScalar
  rw [skipGaps_cons (starts_number hc).1]
  split
  · next h => cases h
  · next h _ => cases h
  · next hkind hcons =>
    cases hkind
    cases hcons
    rw [if_pos hstart, hread]
    exact if_pos (by simpa using hbounds)
  · next h _ _ => cases h

/-- The value of a field is read back. -/
theorem Field.read_chars {v : Option Scalar} (hv : f.Fits v)
    (hword : ∀ n, v = some (.integer n) → IsWord n) (hrest : EndsNumber rest) :
    f.read ((Written.of v).chars ++ rest) = .ok (v, rest) := by
  match v, hv, hword with
  | none, hv, _ =>
    have hoptional : f.optional = true := hv
    show f.read ('n' :: 'u' :: 'l' :: 'l' :: rest) = _
    unfold Field.read
    rw [hoptional, skipGaps_cons (by decide)]
    rfl
  | some (.text t), hv, _ =>
    have hkind : f.kind = .text := hv
    have hread := readScalar_text t rest
    rw [← hkind] at hread
    exact Field.read_of_readScalar (by decide) (by decide) hread
  | some (.integer n), hv, hword =>
    obtain ⟨low, high, name, hkind, hbounds⟩ := hv
    have hread : readScalar f.kind (Text.Numeral.signed n ++ rest) = .ok (.integer n, rest) := by
      rw [hkind]
      exact readScalar_integer hbounds (hword n rfl) hrest
    show f.read (Text.Numeral.signed n ++ rest) = _
    obtain ⟨c, ds, hds, hc⟩ := signed_eq_cons n
    obtain ⟨hgap, hn⟩ := starts_number (hc.imp And.left And.left)
    rw [hds, List.cons_append] at hread ⊢
    exact Field.read_of_readScalar hgap hn hread

/-! ## Objects -/

/-- The fields of an object as they are written. -/
def written (fields : List Field) (values : List (Option Scalar)) : List (String × Written) :=
  List.zipWith (fun f v => (f.name, Written.of v)) fields values

/-- A record as the object that gives its fields in order. -/
def Shape.write (shape : Shape) (values : List (Option Scalar)) : String :=
  writeObject (written shape.fields values)

/-- What has been seen of an object that gives the fields in order. -/
def seenOf (fields : List Field) (values : List (Option Scalar)) : Seen :=
  List.zipWith (fun f v => (f.name, v)) fields values

/-- What is left of an object from between two entries on. -/
def entriesFrom (first : Bool) (rest : List Char) : List (String × Written) → List Char
  | [] => '\x7d' :: rest
  | entry :: more =>
    if first then writeFields (entry :: more) ++ '\x7d' :: rest
    else ',' :: (writeFields (entry :: more) ++ '\x7d' :: rest)

/-- An entry, and what is left of the object behind it. -/
theorem writeFields_cons (name : String) (w : Written) (more : List (String × Written))
    (rest : List Char) : writeFields ((name, w) :: more) ++ '\x7d' :: rest =
      '"' :: (name.toList.flatMap escapeChar ++
        '"' :: ':' :: (w.chars ++ entriesFrom false rest more)) := by
  cases more with
  | nil => simp [writeFields, writeText, entriesFrom]
  | cons entry more => simp [writeFields, writeText, entriesFrom]

/-- Behind a value comes a comma or the end of the object, so a number ends there. -/
theorem endsNumber_entriesFrom (rest : List Char) (more : List (String × Written)) :
    EndsNumber (entriesFrom false rest more) := by
  intro c hc
  cases more with
  | nil =>
    obtain rfl : '\x7d' = c := Option.some.inj hc
    decide
  | cons entry more =>
    obtain rfl : ',' = c := Option.some.inj hc
    decide

/-- The next key is found where an entry is due. -/
theorem nextKey_entriesFrom (first : Bool) (name : String) (w : Written)
    (more : List (String × Written)) (rest : List Char) :
    let key := name.toList.flatMap escapeChar ++
      '"' :: ':' :: (w.chars ++ entriesFrom false rest more)
    nextKey first (entriesFrom first rest ((name, w) :: more)) = .ok (some key, key) := by
  intro key
  have hwritten : writeFields ((name, w) :: more) ++ '\x7d' :: rest = '"' :: key :=
    writeFields_cons name w more rest
  have hquote : skipGaps ('"' :: key) = '"' :: key := skipGaps_cons (by decide)
  cases first with
  | true =>
    have hentries : entriesFrom true rest ((name, w) :: more) = '"' :: key := hwritten
    rw [hentries, nextKey, hquote]
    rfl
  | false =>
    have hentries : entriesFrom false rest ((name, w) :: more) = ',' :: '"' :: key :=
      congrArg (',' :: ·) hwritten
    have hcomma : skipGaps (',' :: '"' :: key) = ',' :: '"' :: key := skipGaps_cons (by decide)
    simp [hentries, nextKey, hcomma, hquote]

/-- What was seen first under a name is found. -/
theorem Seen.find?_append (seen seen' : Seen) (name : String) :
    (seen ++ seen').find? name = (seen.find? name).or (seen'.find? name) := by
  unfold Seen.find?
  rw [List.find?_append]
  cases List.find? (fun e => e.1 == name) seen <;> rfl

/-- Behind an entry the names of the other fields are new still. -/
theorem find?_snoc {seen : Seen} {v : Option Scalar}
    (distinct : ((f :: fields).map (·.name)).Nodup)
    (hnew : ∀ g ∈ f :: fields, seen.find? g.name = none) :
    ∀ g ∈ fields, Seen.find? (seen ++ [(f.name, v)]) g.name = none := by
  intro g hg
  have hne : (f.name == g.name) = false := by
    rw [beq_eq_false_iff_ne]
    intro he
    exact (List.nodup_cons.1 distinct).1 (List.mem_map.2 ⟨g, hg, he.symm⟩)
  rw [Seen.find?_append, hnew g (List.mem_cons_of_mem _ hg)]
  simp [Seen.find?, hne]

/-- An entry is read. -/
theorem readEntry_written {seen : Seen} {v : Option Scalar}
    (hfind : shape.fields.find? (fun g => g.name == f.name) = some f)
    (hnew : seen.find? f.name = none) (hread : f.read s = .ok (v, rest)) :
    readEntry shape seen (f.name.toList.flatMap escapeChar ++ '"' :: ':' :: s) =
      .ok (seen ++ [(f.name, v)], rest) := by
  have hcolon : readColon (':' :: s) = .ok s := by
    unfold readColon
    rw [skipGaps_cons (by decide)]
    rfl
  unfold readEntry
  rw [readText_escaped]
  dsimp only
  rw [String.ofList_toList, hfind]
  dsimp only
  rw [hnew, hcolon]
  dsimp only
  rw [hread]
  rfl

/-- The fields of an object are read one after the other. -/
theorem readEntries_writeFields {fuel : Nat} {first : Bool} {seen : Seen}
    (hvalues : List.Forall₂ Field.Fits fields values)
    (hword : ∀ n, some (.integer n) ∈ values → IsWord n)
    (hfind : ∀ f ∈ fields, shape.fields.find? (fun g => g.name == f.name) = some f)
    (distinct : (fields.map (·.name)).Nodup) (hnew : ∀ f ∈ fields, seen.find? f.name = none)
    (hfuel : fields.length < fuel) :
    readEntries shape fuel first seen (entriesFrom first rest (written fields values)) =
      .ok (seen ++ seenOf fields values, rest) := by
  -- on the fields with their values; before the first of them no comma is written
  induction hvalues generalizing fuel first seen with
  | nil =>
    obtain ⟨fuel, rfl⟩ := Nat.exists_eq_succ_of_ne_zero (Nat.ne_of_gt hfuel)
    show readEntries shape (fuel + 1) first seen ('\x7d' :: rest) = .ok (seen ++ [], rest)
    rw [readEntries, List.append_nil]
    unfold nextKey
    rw [skipGaps_cons (by decide)]
    rfl
  | @cons f v fields values hv hvalues ih =>
    obtain ⟨fuel, rfl⟩ := Nat.exists_eq_succ_of_ne_zero (Nat.ne_of_gt (Nat.zero_lt_of_lt hfuel))
    have hread : f.read ((Written.of v).chars ++ entriesFrom false rest (written fields values)) =
        .ok (v, entriesFrom false rest (written fields values)) :=
      Field.read_chars hv (fun n hn => hword n (hn ▸ List.mem_cons_self))
        (endsNumber_entriesFrom _ _)
    have hentry := readEntry_written (hfind f List.mem_cons_self) (hnew f List.mem_cons_self) hread
    have hrest : readEntries shape fuel false (seen ++ [(f.name, v)])
        (entriesFrom false rest (written fields values)) =
          .ok (seen ++ [(f.name, v)] ++ seenOf fields values, rest) :=
      ih (fun n hn => hword n (List.mem_cons_of_mem _ hn))
        (fun g hg => hfind g (List.mem_cons_of_mem _ hg)) (List.nodup_cons.1 distinct).2
        (find?_snoc distinct hnew) (Nat.lt_of_succ_lt_succ hfuel)
    show readEntries shape (fuel + 1) first seen
      (entriesFrom first rest ((f.name, Written.of v) :: written fields values)) = _
    rw [readEntries, nextKey_entriesFrom]
    dsimp only
    rw [hentry]
    dsimp only
    rw [hrest, List.append_assoc]
    rfl

/-- What was seen in order is found under the names of the fields. -/
theorem find?_seenOf {seen : Seen} (hvalues : List.Forall₂ Field.Fits fields values)
    (distinct : (fields.map (·.name)).Nodup) (hnew : ∀ f ∈ fields, seen.find? f.name = none) :
    List.Forall₂ (fun f v => (seen ++ seenOf fields values).find? f.name = some v)
      fields values := by
  induction hvalues generalizing seen with
  | nil => exact .nil
  | @cons f v fields values hv hvalues ih =>
    have hshift : seen ++ seenOf (f :: fields) (v :: values) =
        (seen ++ [(f.name, v)]) ++ seenOf fields values := by
      rw [List.append_assoc]
      rfl
    have hhere : Seen.find? (seen ++ [(f.name, v)]) f.name = some v := by
      rw [Seen.find?_append, hnew f List.mem_cons_self]
      simp [Seen.find?]
    rw [hshift]
    refine .cons ?_ (ih (List.nodup_cons.1 distinct).2 (find?_snoc distinct hnew))
    rw [Seen.find?_append, hhere]
    rfl

/-- Values that are found under the names of the fields are put in their order. -/
theorem arrange_of_find {seen : Seen}
    (h : List.Forall₂ (fun f v => seen.find? f.name = some v) fields values) :
    arrange rest seen fields = .ok values := by
  induction h with
  | nil => rfl
  | @cons f v fields values hv _ ih =>
    rw [arrange, hv]
    dsimp only
    rw [ih]
    rfl

/-- Every field takes some room. -/
theorem length_writeFields (entries : List (String × Written)) :
    entries.length ≤ (writeFields entries).length := by
  induction entries with
  | nil => exact Nat.zero_le _
  | cons entry more ih =>
    cases more with
    | nil =>
      simp only [writeFields, List.length_cons, List.length_append, List.length_nil]
      omega
    | cons next more =>
      simp only [writeFields, List.length_cons, List.length_append] at ih ⊢
      omega

/-- A record is read back from the object that gives its fields in order, and nothing is left. -/
theorem Shape.read_write (distinct : (shape.fields.map (·.name)).Nodup)
    (hvalues : List.Forall₂ Field.Fits shape.fields values)
    (hword : ∀ n, some (.integer n) ∈ values → IsWord n) :
    shape.read (shape.write values).toList = .ok (values, []) := by
  have hnew : ∀ f ∈ shape.fields, Seen.find? [] f.name = none := fun _ _ => rfl
  have hinput : writeFields (written shape.fields values) ++ ['\x7d'] =
      entriesFrom true [] (written shape.fields values) := by
    cases written shape.fields values <;> rfl
  -- every field takes some characters, so there are fewer fields than characters
  have hfuel : shape.fields.length <
      (entriesFrom true [] (written shape.fields values)).length + 1 := by
    have hlength : (written shape.fields values).length = shape.fields.length := by
      simp [written, hvalues.length_eq]
    have hroom := length_writeFields (written shape.fields values)
    rw [← hinput, List.length_append, List.length_singleton]
    omega
  have hread : readEntries shape _ true []
      (entriesFrom true [] (written shape.fields values)) =
        .ok (seenOf shape.fields values, []) :=
    readEntries_writeFields hvalues hword (fun f hf => find?_name distinct hf) distinct hnew hfuel
  have harrange : arrange [] (seenOf shape.fields values) shape.fields = .ok values :=
    arrange_of_find (find?_seenOf hvalues distinct hnew)
  unfold write writeObject
  rw [String.toList_ofList, hinput]
  unfold read
  rw [skipGaps_cons (by decide)]
  simp only [hread, harrange]
  rfl

/-- A record is read back where more text may follow. -/
theorem Shape.parseFront_write (distinct : (shape.fields.map (·.name)).Nodup)
    (hvalues : List.Forall₂ Field.Fits shape.fields values)
    (hword : ∀ n, some (.integer n) ∈ values → IsWord n) :
    shape.parseFront (shape.write values) = .ok values := by
  unfold parseFront
  dsimp only
  rw [shape.read_write distinct hvalues hword]

/-- A record is read back where nothing may follow. -/
theorem Shape.parse_write (distinct : (shape.fields.map (·.name)).Nodup)
    (hvalues : List.Forall₂ Field.Fits shape.fields values)
    (hword : ∀ n, some (.integer n) ∈ values → IsWord n) :
    shape.parse (shape.write values) = .ok values := by
  unfold parse
  dsimp only
  rw [shape.read_write distinct hvalues hword]
  rfl

end PushToTalk.Json
