import PushToTalk.Proofs.Config.Numeral
import PushToTalk.Proofs.Json.RoundTrip

/-
  Whole files that give the backend a port.

  `Format.scalar?` says what a format takes a single word for.  Here the word stands where it stands
  in practice, inside a file: the reader of the format has to find the group of the backend in the
  text, and the key of the port in the group, before it comes to the word, and it has to notice that
  the word is over although more may follow it.  A numeral in a file is then read as it is read by
  itself (`Format.read_portText`), with the outcome told by `Format.scalar?_signed`.

  The formats have a reader each, so there is one theorem `read_portText` for each of them, and they
  are put together at the end.  They go the same way.

  1. **The word in its place**: a numeral is followed by nothing, or by the sign that closes the
     group.  What the reader makes of it there comes from `Closes` in the module on numerals.
  2. **The group around it**: one lemma reads an object or a record with a single entry, and is used
     twice, for the group of the backend and for the top of the file.  TOML and the sections have no
     such nesting: a header comes first, and the entry is filed under it.
  3. **The text**: what is left is to follow the reader over fixed characters, which is computed.

  YAML is the longest, for its meaning hangs on columns.  Its scanner is followed from one sign to
  the next: `behindGroup`, `behindColon`, `behindKey`, `behindSign` and `behindWord` are the places on
  the way, each with the tokens so far, the columns of the open tables, and the slot in which a key
  may still begin.  Only the step over the word itself needs an argument, since its length is open;
  the others are computed.

  Other spellings of the same setting (other blanks, comments, keys in quotes) are not told of here.
-/

namespace PushToTalk.Config

open Text.Numeral (digits isDigit ofInt signed signed_cases)

variable {c : Char} {word rest cs s : List Char} {key : String} {fuel : Nat} {n : Int}
  {origin : Option String} {α : Type} {x : Option α} {f : α → Value}

/-- A file of a format that gives the backend a port, spelled by a word, and says nothing else. -/
def Format.portText (format : Format) (word : List Char) : String :=
  match format with
  | .toml | .ini => .ofList ("[backend]\nport=".toList ++ word)
  | .json => .ofList ("\x7b\"backend\":\x7b\"port\":".toList ++ (word ++ ['\x7d', '\x7d']))
  | .yaml => .ofList ("backend:\n  port: ".toList ++ word)
  | .ron => .ofList ("(backend:(port:".toList ++ (word ++ [')', ')']))
  | .json5 => .ofList ("\x7bbackend:\x7bport:".toList ++ (word ++ ['\x7d', '\x7d']))

/-- A group that holds one entry. -/
def single (origin : Option String) (key : String) (v : Value) : Value := .table origin [(key, v)]

/-- The value of a file that gives the backend the port `s`, and nothing else. -/
def portValue (origin : Option String) (s : Scalar) : Value :=
  single origin "backend" (single origin "port" (.scalar origin s))

/-- The characters with which a numeral may begin. The readers decide by the first character what
kind of value comes. -/
def frontChars : List Char := ['-', '0', '1', '2', '3', '4', '5', '6', '7', '8', '9']

/-- Every character of a numeral is one of these, and so is its first one. -/
theorem mem_frontChars (h : c ∈ signed n) : c ∈ frontChars :=
  List.contains_iff_mem.1 (forall_numeralChar (p := fun c => frontChars.contains c)
    (by decide) (by decide) (isNumeralChar_of_mem c h))

/-- The first character of a numeral, with what comes behind it. -/
theorem exists_front (n : Int) : ∃ c ds, signed n = c :: ds ∧ c ∈ frontChars := by
  obtain ⟨c, ds, h, -⟩ := PushToTalk.Json.signed_eq_cons n
  exact ⟨c, ds, h, mem_frontChars (h ▸ List.mem_cons_self)⟩

/-- Three of the readers are given fuel by the length of the text. That is more than they need, since
the text is longer than what stands in front of the numeral. -/
theorem exists_fuel (text : String) (needed : Nat) {front back : List Char}
    (htext : text.toList = front ++ back) (hneeded : needed ≤ 2 * front.length + 2) :
    ∃ fuel, 2 * text.toList.length + 2 = fuel + needed := by
  refine ⟨2 * text.toList.length + 2 - needed, ?_⟩
  rw [htext, List.length_append]
  omega

/-! ## TOML -/

namespace Toml

/-- A text without carriage returns is left as it is. -/
theorem unifyLines_plain (h : '\r' ∉ cs) : Token.unifyLines cs = cs := by
  fun_induction Token.unifyLines cs with
  | case1 rest ih => exact absurd List.mem_cons_self h
  | case2 c rest _ ih => rw [ih fun hm => h (List.mem_cons_of_mem c hm)]
  | case3 => rfl

/-- A word of TOML goes on as long as its characters do. For each of the eleven characters that
may begin a numeral the reader computes. -/
theorem read_front (hc : c ∈ frontChars) (cs : List Char) : Token.read c cs =
    some (.word (c :: cs.takeWhile Token.isWordChar), cs.dropWhile Token.isWordChar) := by
  fin_cases hc <;> rfl

/-- A numeral at the end of the text is one token, a word, with its sign. -/
theorem readAll_signed (n : Int) :
    Token.readAll ((signed n).length + fuel) (signed n) = some [.word (signed n)] := by
  obtain ⟨c, ds, h, hc⟩ := exists_front n
  have hword : ∀ d ∈ ds, Token.isWordChar d = true := fun d hd =>
    forall_numeralChar (by decide) (by decide)
      (isNumeralChar_of_mem d (h ▸ List.mem_cons_of_mem c hd))
  have hread : Token.read c ds = some (.word (c :: ds), []) := by
    rw [read_front hc, List.takeWhile_eq_self_iff.2 hword, List.dropWhile_eq_nil_iff.2 hword]
  rw [h, List.length_cons, Nat.add_right_comm, Token.readAll, hread, Option.bind_some]
  cases ds.length + fuel <;> rfl

/-- The tokens of a file: its header and its key are computed, and the word is the last of them. -/
theorem scan_portText (n : Int) : Token.scan (Format.toml.portText (signed n)) =
    some [.openBracket, .word "backend".toList, .closeBracket, .newline, .word "port".toList,
      .equals, .word (signed n)] := by
  -- the reader turns carriage returns into line breaks first, and there are none
  have hbreak : '\r' ∉ "[backend]\nport=".toList ++ signed n := by
    rw [List.mem_append, not_or]
    exact ⟨by decide, not_mem_signed (by decide)⟩
  have hfront : Token.readAll ((signed n).length + 15) ("[backend]\nport=".toList ++ signed n) =
      ((((((Token.readAll ((signed n).length + 9) (signed n)).map (Token.equals :: ·)).map
        (Token.word "port".toList :: ·)).map (Token.newline :: ·)).map (Token.closeBracket :: ·)).map
        (Token.word "backend".toList :: ·)).map (Token.openBracket :: ·) := rfl
  unfold Token.scan Format.portText
  rw [String.toList_ofList, unifyLines_plain hbreak]
  show Token.readAll ((signed n).length + 15) ("[backend]\nport=".toList ++ signed n) = _
  rw [hfront, readAll_signed]
  rfl

/-- Of a file of TOML, one block is read, which is filed under its header. -/
theorem read_portText (n : Int) :
    (read origin (Format.toml.portText (signed n))).map (Value.table origin) =
      (Number.bounded n).map (portValue origin) := by
  have hvalue : Document.readValue 3 [.word (signed n)] =
      (Number.bounded n).map fun s => (.scalar s, []) := by
    show (Document.readBare (signed n) []).map (fun r => (Node.scalar r.1, r.2)) = _
    rw [readBare_signed, Option.map_map]
    rfl
  -- the only step that is not computed is the one over the value
  have hblock : Document.readBlocks 7 ⟨[String.ofList "backend".toList], false, []⟩
      [.word "port".toList, .equals, .word (signed n)] =
      (Number.bounded n).map fun s => [⟨["backend"], false, [("port", .scalar s)]⟩] := by
    show ((Document.readValue 3 [.word (signed n)]).bind fun r => _) = _
    rw [hvalue]
    cases Number.bounded n <;> rfl
  unfold read
  rw [scan_portText, Option.bind_some]
  show ((((Document.readBlocks 7 _ _).map _).bind _).map _).map _ = _
  rw [hblock]
  cases Number.bounded n <;> rfl

end Toml

/-! ## JSON -/

namespace Json

/-- Where a value is due and a numeral comes, a number is read. -/
theorem readValue_front {depth : Nat} (hc : c ∈ frontChars) (cs : List Char) :
    readValue origin (fuel + 1) depth (c :: cs) =
      match PushToTalk.Json.readNumber (c :: cs) with
      | .ok (m, rest) => some (.scalar origin (scalarOf m), rest)
      | .error _ => none := by
  fin_cases hc <;> rfl

/-- A numeral in front of a closing sign is a value, up to that sign. -/
theorem readValue_numeral {depth : Nat} (n : Int) (hrest : Closes rest) :
    readValue origin (fuel + 1) depth (signed n ++ rest) =
      (PushToTalk.Json.readNumber (signed n)).toOption.map fun r =>
        (.scalar origin (scalarOf r.1), rest) := by
  -- what is read is a number; where it ends is another question
  have hread : readValue origin (fuel + 1) depth (signed n ++ rest) =
      (PushToTalk.Json.readNumber (signed n ++ rest)).toOption.map fun r =>
        (.scalar origin (scalarOf r.1), r.2) := by
    obtain ⟨c, ds, h, hc⟩ := exists_front n
    rw [h, List.cons_append, readValue_front hc]
    cases PushToTalk.Json.readNumber (c :: (ds ++ rest)) <;> rfl
  rw [hread, toOption_readNumber n hrest, Option.map_map]
  rfl

/-- An object with one entry is a group with one entry, if the value of the entry ends where the
object is closed. -/
theorem readValue_object {depth : Nat} (name : List Char)
    (hvalue : readValue origin (fuel + 1) depth s = x.map fun a => (f a, '\x7d' :: rest)) :
    readValue origin (fuel + 3) (depth + 1)
        ('\x7b' :: '"' :: (name.flatMap PushToTalk.Json.escapeChar ++ '"' :: ':' :: s)) =
      x.map fun a => (single origin (String.ofList name) (f a), rest) := by
  have hkey : readKey ('"' :: (name.flatMap PushToTalk.Json.escapeChar ++ '"' :: ':' :: s)) =
      some (String.ofList name, s) := by
    rw [readKey, PushToTalk.Json.readText_escaped]
    rfl
  show ((readKey ('"' :: (name.flatMap PushToTalk.Json.escapeChar ++ '"' :: ':' :: s))).bind _).map _
    = _
  rw [hkey, Option.bind_some]
  show ((readValue origin (fuel + 1) depth s).bind _).map _ = _
  rw [hvalue]
  cases x <;> rfl

/-- A file of JSON holds an object in an object, and the numeral innermost. -/
theorem read_portText (n : Int) : read origin (Format.json.portText (signed n)) =
    (PushToTalk.Json.readNumber (signed n)).toOption.map fun r =>
      portValue origin (scalarOf r.1) := by
  have htext : (Format.json.portText (signed n)).toList =
      '\x7b' :: '"' :: ("backend".toList.flatMap PushToTalk.Json.escapeChar ++ '"' :: ':' ::
        '\x7b' :: '"' :: ("port".toList.flatMap PushToTalk.Json.escapeChar ++ '"' :: ':' ::
          (signed n ++ ['\x7d', '\x7d']))) := String.toList_ofList
  have hvalue : ∀ fuel, readValue origin (fuel + 5) depthLimit
      (Format.json.portText (signed n)).toList =
      (PushToTalk.Json.readNumber (signed n)).toOption.map fun r =>
        (portValue origin (scalarOf r.1), []) := by
    intro fuel
    rw [htext]
    have hclose := closes_cons (Or.inr rfl) ['\x7d']
    exact readValue_object _ (readValue_object _ (readValue_numeral n hclose))
  obtain ⟨fuel, hfuel⟩ := exists_fuel (Format.json.portText (signed n)) 5 String.toList_ofList
    (by decide)
  unfold read
  dsimp only
  rw [hfuel, hvalue]
  cases (PushToTalk.Json.readNumber (signed n)).toOption <;> rfl

end Json

/-! ## Sections -/

namespace Ini

/-- A file of sections is read line by line. The value is the only text in it whose length is
open. -/
theorem read_portText (n : Int) : read origin (Format.ini.portText (signed n)) =
    some (portValue origin (.text (ofInt n))) := by
  unfold read Format.portText
  rw [String.toList_ofList]
  simp [readSections, isBreak, Text.isBlank, readUntil, readValue_signed, Value.putIn, trim,
    Section.put, portValue, single]

end Ini

/-! ## RON -/

namespace Ron

/-- There is no blank and no comment in front of a numeral. -/
theorem skip_front (hc : c ∈ frontChars) (cs : List Char) : skip (c :: cs) = c :: cs := by
  fin_cases hc <;> rfl

/-- Where a value is due and a numeral comes, a number is read, and not a name or a group. -/
theorem readValue_front (hc : c ∈ frontChars) (cs : List Char) :
    readValue origin (fuel + 1) (c :: cs) =
      (readNumber (c :: cs)).map fun r => (.scalar origin r.1, r.2) := by
  fin_cases hc <;> rfl

/-- A numeral in front of a closing sign is a value, up to that sign, and RON refuses none. -/
theorem readValue_numeral (n : Int) (hrest : Closes rest) :
    readValue origin (fuel + 1) (skip (signed n ++ rest)) =
      some (.scalar origin (if fits n then .whole n else .real (Float.ofInt n)), rest) := by
  have hread := readNumber_signed n hrest
  obtain ⟨c, ds, h, hc⟩ := exists_front n
  rw [h, List.cons_append] at hread ⊢
  rw [skip_front hc, readValue_front hc, hread]
  rfl

/-- A record with one field is a group with one entry. The hypotheses on `cs` say that a name and a
colon come first; for a fixed name they hold by computation. -/
theorem readValue_record {v : Value} (hskip : skip cs = cs) (hopen : (cs.head? == some ')') = false)
    (hfield : readField cs = some (key, s))
    (hvalue : readValue origin (fuel + 1) (skip s) = some (v, ')' :: rest)) :
    readValue origin (fuel + 4) (skip ('(' :: cs)) = some (single origin key v, rest) := by
  have hfields : readFields origin (fuel + 2) [] cs = some ([(key, v)], rest) := by
    rw [readFields]
    · rw [hfield, Option.bind_some]
      dsimp only
      rw [hvalue]
      rfl
    · rintro rest rfl
      cases hopen
  have hrecord : readRecord origin (fuel + 3) cs = some (single origin key v, rest) := by
    rw [readRecord]
    · rw [hfield, hfields]
      rfl
    · rintro rest rfl
      cases hopen
  show readRecord origin (fuel + 3) (skip cs) = _
  rw [hskip, hrecord]

/-- A file of RON holds a record in a record, and the numeral innermost. -/
theorem read_portText (n : Int) : read origin (Format.ron.portText (signed n)) =
    some (portValue origin (if fits n then .whole n else .real (Float.ofInt n))) := by
  have htext : (Format.ron.portText (signed n)).toList =
      '(' :: ("backend:".toList ++ '(' :: ("port:".toList ++ (signed n ++ [')', ')']))) :=
    String.toList_ofList
  have hvalue : ∀ fuel, readValue origin (fuel + 7) (skip (Format.ron.portText (signed n)).toList) =
      some (portValue origin (if fits n then .whole n else .real (Float.ofInt n)), []) := by
    intro fuel
    rw [htext]
    have hclose := closes_cons (Or.inl rfl) [')']
    exact readValue_record rfl rfl rfl
      (readValue_record rfl rfl rfl (readValue_numeral n hclose))
  obtain ⟨fuel, hfuel⟩ := exists_fuel (Format.ron.portText (signed n)) 7 String.toList_ofList
    (by decide)
  unfold read
  dsimp only
  rw [hfuel, hvalue]
  rfl

end Ron

/-! ## JSON5 -/

namespace Json5

/-- There is no blank and no comment in front of a numeral, as in RON. -/
theorem skip_front (hc : c ∈ frontChars) (cs : List Char) : skip (c :: cs) = c :: cs := by
  fin_cases hc <;> rfl

/-- Where a value is due and a numeral comes, a number is read. -/
theorem readValue_front (hc : c ∈ frontChars) (cs : List Char) :
    readValue origin (fuel + 1) (c :: cs) =
      (readNumber (c :: cs)).map fun r => (.scalar origin r.1, r.2) := by
  fin_cases hc <;> rfl

/-- A numeral in front of a closing sign is a value, up to that sign, if the number fits. -/
theorem readValue_numeral (n : Int) (hrest : Closes rest) :
    readValue origin (fuel + 1) (skip (signed n ++ rest)) =
      (if fits n then some n else none).map fun n => (.scalar origin (.whole n), rest) := by
  have hread := readNumber_signed n hrest
  obtain ⟨c, ds, h, hc⟩ := exists_front n
  rw [h, List.cons_append] at hread ⊢
  rw [skip_front hc, readValue_front hc, hread]
  cases fits n <;> rfl

/-- An object with one entry is a group with one entry. The hypotheses on `cs` say that a key comes
first; for a fixed key they hold by computation. -/
theorem readValue_object (hskip : skip cs = cs) (hopen : (cs.head? == some '\x7d') = false)
    (hkey : readKey cs = some (key, ':' :: s))
    (hvalue : readValue origin (fuel + 1) (skip s) = x.map fun a => (f a, '\x7d' :: rest)) :
    readValue origin (fuel + 3) (skip ('\x7b' :: cs)) =
      x.map fun a => (single origin key (f a), rest) := by
  have hentries : readEntries origin (fuel + 2) [] cs = x.map fun a => ([(key, f a)], rest) := by
    rw [readEntries]
    · rw [hkey, Option.bind_some]
      show (readValue origin (fuel + 1) (skip s)).bind _ = _
      rw [hvalue]
      cases x <;> rfl
    · rintro rest rfl
      cases hopen
  show (readEntries origin (fuel + 2) [] (skip cs)).map _ = _
  rw [hskip, hentries, Option.map_map]
  rfl

/-- A file of JSON5 is one of JSON with bare keys. -/
theorem read_portText (n : Int) : read origin (Format.json5.portText (signed n)) =
    (if fits n then some n else none).map fun n => portValue origin (.whole n) := by
  have htext : (Format.json5.portText (signed n)).toList = '\x7b' :: ("backend:".toList ++
      '\x7b' :: ("port:".toList ++ (signed n ++ ['\x7d', '\x7d']))) := String.toList_ofList
  have hvalue : ∀ fuel, readValue origin (fuel + 5)
      (skip (Format.json5.portText (signed n)).toList) =
      (if fits n then some n else none).map fun n => (portValue origin (.whole n), []) := by
    intro fuel
    rw [htext]
    have hclose := closes_cons (Or.inr rfl) ['\x7d']
    exact readValue_object rfl rfl rfl
      (readValue_object rfl rfl rfl (readValue_numeral n hclose))
  obtain ⟨fuel, hfuel⟩ := exists_fuel (Format.json5.portText (signed n)) 5 String.toList_ofList
    (by decide)
  unfold read
  dsimp only
  rw [hfuel, hvalue]
  cases fits n <;> rfl

end Json5

/-! ## YAML -/

namespace Yaml

/-- Within a line every character moves the place by one column. -/
theorem skipMany_plain (h : '\n' ∉ cs) (offset line column : Nat) :
    Cursor.skipMany cs.length ⟨cs ++ rest, offset, line, column⟩ =
      ⟨rest, offset + cs.length, line, column + cs.length⟩ := by
  induction cs generalizing offset column with
  | nil => rfl
  | cons c cs ih =>
    have hne : c ≠ '\n' := fun hc => h (hc ▸ List.mem_cons_self)
    have hskip : Cursor.skip ⟨c :: (cs ++ rest), offset, line, column⟩ =
        ⟨cs ++ rest, offset + 1, line, column + 1⟩ := by
      unfold Cursor.skip
      split
      · next he => cases he
      · next he => exact absurd (List.cons.inj he).1 hne
      · next he =>
        cases he
        rfl
    rw [List.length_cons, List.cons_append, Cursor.skipMany, hskip,
      ih fun hm => h (List.mem_cons_of_mem c hm), Cursor.mk.injEq]
    exact ⟨rfl, by omega, rfl, by omega⟩

/-- A plain text runs on as long as there is no blank, no line break and no colon in it. -/
theorem plainRun_plain (h : ∀ c ∈ cs, isBlank c = false ∧ isBreak c = false ∧ c ≠ ':') :
    plainRun false cs = cs := by
  induction cs with
  | nil => rfl
  | cons c cs ih =>
    obtain ⟨hblank, hbreak, hcolon⟩ := h c List.mem_cons_self
    rw [plainRun, ih fun d hd => h d (List.mem_cons_of_mem c hd)]
    simp [hblank, hbreak, hcolon]

/-! ### Places on the way -/

/-- What has been scanned behind the key of the group. -/
def behindGroup (word : List Char) : Scan where
  place := ⟨":\n  port: ".toList ++ word, 7, 0, 7⟩
  tokens := [.text "backend".toList true]
  indents := []
  slots := [some ⟨0, false, 0, 0, 0⟩]
  mayKey := false
  behindQuote := none

/-- Behind the colon of the group. The key has become one, and a table has begun in front of it. -/
def behindColon (word : List Char) : Scan where
  place := ⟨"\n  port: ".toList ++ word, 8, 0, 8⟩
  tokens := [.value, .text "backend".toList true, .key, .tableStart]
  indents := [0]
  slots := [none]
  mayKey := false
  behindQuote := none

/-- Behind the key of the port, two columns further in. -/
def behindKey (word : List Char) : Scan where
  place := ⟨": ".toList ++ word, 15, 1, 6⟩
  tokens := .text "port".toList true :: (behindColon word).tokens
  indents := [0]
  slots := [some ⟨4, false, 11, 1, 2⟩]
  mayKey := false
  behindQuote := none

/-- Behind the colon of the port, with a second table open. -/
def behindSign (word : List Char) : Scan where
  place := ⟨' ' :: word, 16, 1, 7⟩
  tokens := [.value, .text "port".toList true, .key, .tableStart] ++ (behindColon word).tokens
  indents := [2, 0]
  slots := [none]
  mayKey := false
  behindQuote := none

/-- Behind the word, where the text ends. -/
def behindWord (word : List Char) : Scan where
  place := ⟨[], 17 + word.length, 1, 8 + word.length⟩
  tokens := .text word true :: (behindSign word).tokens
  indents := [2, 0]
  slots := [none]
  mayKey := false
  behindQuote := none

/-- The key of the group is scanned. It is still only a text that might become a key. -/
theorem readAll_start : Scan.readAll (fuel + 1) (.start ("backend:\n  port: ".toList ++ word)) =
    Scan.readAll fuel (behindGroup word) := rfl

/-- The colon makes a key of it, and opens a table at its column. -/
theorem readAll_behindGroup :
    Scan.readAll (fuel + 1) (behindGroup word) = Scan.readAll fuel (behindColon word) := rfl

/-- The line break and the indentation are skipped, and a key may begin again. -/
theorem skipGap_behindColon :
    Scan.skipGap ((behindColon word).place.rest.length + 1) (behindColon word) =
      { behindColon word with place := ⟨"port: ".toList ++ word, 11, 1, 2⟩, mayKey := true } := rfl

/-- The key of the port is scanned, with a slot for it. -/
theorem readAll_behindColon :
    Scan.readAll (fuel + 1) (behindColon word) = Scan.readAll fuel (behindKey word) := by
  rw [Scan.readAll, skipGap_behindColon]
  rfl

/-- The colon behind the key of the port opens the second table, because the key stands further
in than the first. -/
theorem readAll_behindKey :
    Scan.readAll (fuel + 1) (behindKey word) = Scan.readAll fuel (behindSign word) := rfl

/-- A numeral is a plain text up to the end of the file. -/
theorem readPlain_signed (n : Int) :
    readPlain false 3 ((signed n).length + 1) [] .none ⟨signed n, 17, 1, 8⟩ =
      some (signed n, false, (behindWord (signed n)).place) := by
  have hrun : plainRun false (signed n) = signed n := plainRun_plain fun c hc => by
    have hall := forall_numeralChar (p := fun c => !isBlank c && !isBreak c && c != ':')
      (by decide) (by decide) (isNumeralChar_of_mem c hc)
    simpa [and_assoc] using hall
  have hskip : Cursor.skipMany (signed n).length ⟨signed n ++ [], 17, 1, 8⟩ =
      ⟨[], 17 + (signed n).length, 1, 8 + (signed n).length⟩ :=
    skipMany_plain (not_mem_signed (by decide)) 17 1 8
  rw [List.append_nil] at hskip
  have hhash : (signed n).head? ≠ some '#' := fun he =>
    not_mem_signed (n := n) (c := '#') (by decide) (List.mem_of_head? he)
  have hne : (signed n).isEmpty = false := by
    obtain ⟨c, ds, h, -⟩ := exists_front n
    rw [h]
    rfl
  unfold readPlain
  simp [Cursor.atMark, hhash, hrun, hskip, hne, Gap.value, Gap.none, behindWord]

/-- Where a numeral comes next, a plain text is read. A minus sign would begin an item of a list if a
blank followed, so there the digit behind it counts too. -/
theorem readToken_front (t : Scan) (hc : c ∈ frontChars)
    (h : c = '-' → ∃ d ds, cs = d :: ds ∧ d ∈ frontChars) :
    t.readToken c cs = t.readPlainText := by
  by_cases hminus : c = '-'
  · obtain ⟨d, ds, rfl, hd⟩ := h hminus
    subst hminus
    fin_cases hd <;> rfl
  · fin_cases hc
    · exact absurd rfl hminus
    all_goals rfl

/-- What comes next is a plain text, whatever the numeral. -/
theorem readToken_signed (t : Scan) (h : signed n = c :: cs) : t.readToken c cs = t.readPlainText := by
  refine readToken_front t (mem_frontChars (h ▸ List.mem_cons_self)) ?_
  rintro rfl
  -- a minus sign is never the whole of a numeral
  obtain ⟨m, -, hm⟩ := signed_eq_minus h
  obtain ⟨d, ds, hdigits, -⟩ := exists_digits m
  rw [hdigits] at hm
  refine ⟨d, ds, hm.symm, mem_frontChars (n := n) ?_⟩
  rw [h, ← hm]
  exact List.mem_cons_of_mem _ List.mem_cons_self

/-- The blank behind the colon is skipped, and nothing of the word. -/
theorem skipGap_behindSign (hc : c ∈ frontChars) :
    Scan.skipGap ((behindSign (c :: cs)).place.rest.length + 1) (behindSign (c :: cs)) =
      { behindSign (c :: cs) with place := ⟨c :: cs, 17, 1, 8⟩ } := by
  fin_cases hc <;> rfl

/-- The numeral is scanned as one plain text, up to the end of the file. The places before and
behind it are known, but for its length. -/
theorem readAll_behindSign (n : Int) : Scan.readAll (fuel + 1) (behindSign (signed n)) =
    Scan.readAll fuel (behindWord (signed n)) := by
  have hread := readPlain_signed n
  obtain ⟨c, cs, h, hc⟩ := exists_front n
  rw [h] at hread ⊢
  rw [Scan.readAll, skipGap_behindSign hc]
  show (Scan.readToken { behindSign (c :: cs) with place := ⟨c :: cs, 17, 1, 8⟩ } c cs).bind _ = _
  rw [readToken_signed _ h]
  show ((readPlain false 3 ((c :: cs).length + 1) [] .none ⟨c :: cs, 17, 1, 8⟩).map _).bind _ = _
  rw [hread]
  rfl

/-- At the end of the text both tables end. -/
theorem readAll_behindWord : Scan.readAll (fuel + 1) (behindWord word) =
    some [.tableStart, .key, .text "backend".toList true, .value, .tableStart, .key,
      .text "port".toList true, .value, .text word true, .blockEnd, .blockEnd] := by
  -- the end of the text counts as a column in front of all tables
  have hsame : Scan.unrolled ((8 + word.length : Nat) : Int) [2, 0] = (0, [2, 0]) :=
    if_neg (by omega)
  have hopen : Scan.readAll (fuel + 1) (behindWord word) =
      Scan.finish { behindWord word with
        tokens := List.replicate (Scan.unrolled ((8 + word.length : Nat) : Int) [2, 0]).1 .blockEnd ++
          (behindWord word).tokens
        indents := (Scan.unrolled ((8 + word.length : Nat) : Int) [2, 0]).2 } := rfl
  rw [hopen, hsame]
  rfl

/-- The tokens of a file of YAML, one turn after the other. -/
theorem scan_portText (n : Int) : Token.scan (Format.yaml.portText (signed n)) =
    some [.tableStart, .key, .text "backend".toList true, .value, .tableStart, .key,
      .text "port".toList true, .value, .text (signed n) true, .blockEnd, .blockEnd] := by
  -- the reader stops at a null character, and there is none
  have hnul : ("backend:\n  port: ".toList ++ signed n).takeWhile (· != '\x00') =
      "backend:\n  port: ".toList ++ signed n := by
    rw [List.takeWhile_eq_self_iff]
    intro c hc
    rcases List.mem_append.1 hc with hc | hc
    · exact List.all_eq_true.1
        (by decide : "backend:\n  port: ".toList.all (· != '\x00') = true) c hc
    · exact forall_numeralChar (p := (· != '\x00')) (by decide) (by decide)
        (isNumeralChar_of_mem c hc)
  unfold Token.scan Format.portText
  rw [String.toList_ofList]
  dsimp only
  rw [hnul]
  show Scan.readAll ((signed n).length + 13 + 1 + 1 + 1 + 1 + 1 + 1) _ = _
  rw [readAll_start, readAll_behindGroup, readAll_behindColon, readAll_behindKey,
    readAll_behindSign, readAll_behindWord]

/-! ### The tables -/

/-- A table with one entry is a group with one entry. The key is a plain text, which has to stand for
itself. -/
theorem readValue_table {name : List Char} (bare : Bool) {tokens more : List Token}
    (hname : Plain.scalar? name = some (.text key))
    (hvalue : readPart origin (fuel + 2) ⟨tokens, []⟩ =
      x.map fun a => (f a, ⟨.blockEnd :: more, []⟩)) :
    readValue origin (fuel + 4) true bare
        ⟨.tableStart :: .key :: .text name true :: .value :: tokens, []⟩ =
      x.map fun a => (single origin key (f a), ⟨more, []⟩) := by
  have hkey : readPart origin (fuel + 2) ⟨.text name true :: .value :: tokens, []⟩ =
      some (.scalar origin (.text key), ⟨.value :: tokens, []⟩) := by
    show (((Plain.scalar? name).map (Value.scalar origin)).map _).map _ = _
    rw [hname]
    rfl
  have hentries : readEntries origin (fuel + 3) []
      ⟨.key :: .text name true :: .value :: tokens, []⟩ =
      x.map fun a => ([(key, f a)], ⟨more, []⟩) := by
    show (readPart origin (fuel + 2) ⟨.text name true :: .value :: tokens, []⟩).bind _ = _
    rw [hkey, Option.bind_some]
    show (readPart origin (fuel + 2) ⟨tokens, []⟩).bind _ = _
    rw [hvalue]
    cases x <;> rfl
  cases bare
  all_goals
    show ((readEntries origin (fuel + 3) []
      ⟨.key :: .text name true :: .value :: tokens, []⟩).map _).map _ = _
    rw [hentries]
    cases x <;> rfl

/-- A file of YAML holds a table in a table. The tables are built from the tokens, so columns do
not matter any more. -/
theorem read_portText (n : Int) : read origin (Format.yaml.portText (signed n)) =
    (Plain.scalar? (signed n)).map (portValue origin) := by
  have hport : Plain.scalar? "port".toList = some (.text "port") := rfl
  have hbackend : Plain.scalar? "backend".toList = some (.text "backend") := rfl
  have hword : readPart origin 19 ⟨[.text (signed n) true, .blockEnd, .blockEnd], []⟩ =
      (Plain.scalar? (signed n)).map fun s =>
        (.scalar origin s, ⟨[.blockEnd, .blockEnd], []⟩) := by
    show (((Plain.scalar? (signed n)).map (Value.scalar origin)).map _).map _ = _
    cases Plain.scalar? (signed n) <;> rfl
  have hgroup : readPart origin 22 ⟨[.tableStart, .key, .text "port".toList true, .value,
      .text (signed n) true, .blockEnd, .blockEnd], []⟩ =
      (Plain.scalar? (signed n)).map fun s =>
        (single origin "port" (.scalar origin s), ⟨[.blockEnd], []⟩) :=
    readValue_table true hport hword
  have htop : readValue origin 24 true false ⟨[.tableStart, .key, .text "backend".toList true,
      .value, .tableStart, .key, .text "port".toList true, .value, .text (signed n) true,
      .blockEnd, .blockEnd], []⟩ =
      (Plain.scalar? (signed n)).map fun s => (portValue origin s, ⟨[], []⟩) :=
    readValue_table false hbackend hgroup
  unfold read
  rw [scan_portText, Option.bind_some, List.isEmpty_cons, if_neg Bool.false_ne_true]
  show (((readValue origin 24 true false _).map _).bind _) = _
  rw [htop]
  cases Plain.scalar? (signed n) <;> rfl

end Yaml

/-! ## All formats -/

/-- A whole file that gives the backend a port is read as just that, with what its format takes the
numeral for; where the format refuses the numeral, it refuses the file. -/
theorem Format.read_portText (format : Format) (n : Int) :
    format.read origin (format.portText (signed n)) =
      (format.scalar? (signed n)).map (portValue origin) := by
  cases format with
  | toml =>
    have hscalar : Toml.Number.bounded n = toml.scalar? (signed n) := (scalar?_toml n).symm
    rw [← hscalar]
    exact Toml.read_portText n
  | json =>
    rw [scalar?_json, Option.map_map]
    exact Json.read_portText n
  | yaml => exact Yaml.read_portText n
  | ini =>
    rw [scalar?_ini]
    exact Ini.read_portText n
  | ron =>
    rw [scalar?_ron]
    exact Ron.read_portText n
  | json5 =>
    rw [scalar?_json5]
    refine (Json5.read_portText n).trans ?_
    cases fits n <;> rfl

end PushToTalk.Config
