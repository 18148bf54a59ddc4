import PushToTalk.RawPath

/-
  Paths whose names are texts, seen as bytes.

  The relay works with paths that are texts; the system has paths that are bytes.  For a path that
  is a text the two agree in everything that is asked of a path here: its spelling, its file name,
  its stem and how a message shows it.  So what is proved of all paths holds of those that are
  texts, and what the relay finds out about one of those is what it finds out about its bytes.

  1. **Bytes of characters**: a byte below 128 is a character of its own and stands in the bytes of
     no other character (`byte_cases`, `mem_utf8EncodeChar`).  A mark such as a slash or a dot is
     therefore found among the bytes of a text exactly where it stands in the text
     (`mark_mem_utf8_iff`).

  2. **Taking apart**: a text that is split at a mark, or divided at its last mark, and then
     encoded is the same as the encoded text, split or divided at the byte of the mark
     (`split_utf8`, `divideLast_utf8`).

  3. **Paths**: hence the bytes of a path that is a text spell that path (`ofBytes_utf8`,
     `bytes_raw`), and file name and stem are encoded along with it (`fileName?_raw`,
     `stem?_raw`).  The file name needs a second look: a path takes it from its steps, bytes take
     it from the pieces, so both are compared with the last piece that leads anywhere
     (`fileName?_eq`).

  Main statements: `ofBytes_utf8`, `stem?_raw`, `stemText?_raw` and `quoted_raw`.
-/

namespace PushToTalk

namespace Text

variable {mark : Char} {cs : List Char}

/-! ## Bytes of characters -/

/-- A character below 128 is one byte, its number. -/
theorem utf8EncodeChar_mark (hmark : mark.toNat < 128) :
    String.utf8EncodeChar mark = [mark.toUInt8] := by
  have hsmall : mark.val.toNat ≤ 127 := Nat.le_of_lt_succ hmark
  unfold String.utf8EncodeChar
  simp only [if_pos hsmall]
  rfl

/-- The byte of a character below 128 has the number of the character. -/
theorem toNat_toUInt8 (hmark : mark.toNat < 128) : mark.toUInt8.toNat = mark.toNat := by
  show mark.val.toUInt8.toNat = mark.val.toNat
  rw [UInt32.toNat_toUInt8]
  exact Nat.mod_eq_of_lt (Nat.lt_trans hmark (by decide))

/-- The bytes of a character: one that is its number, if that is below 128, and otherwise several,
all of them at least 128 and below 248. -/
theorem byte_cases {c : Char} {b : UInt8} (h : b ∈ String.utf8EncodeChar c) :
    (c.toNat < 128 ∧ b.toNat = c.toNat) ∨ 128 ≤ b.toNat ∧ b.toNat < 248 := by
  -- a byte of a longer encoding has the form `n % k + m` with `128 ≤ m`
  have hlong : ∀ n, 128 ≤ n → n < 248 → b = UInt8.ofNat n → 128 ≤ b.toNat ∧ b.toNat < 248 := by
    rintro n hlarge hsmall rfl
    rw [UInt8.toNat_ofNat_of_lt' (Nat.lt_trans hsmall (by decide))]
    exact ⟨hlarge, hsmall⟩
  unfold String.utf8EncodeChar at h
  simp only at h
  split at h
  · next hsmall =>
    left
    rw [List.mem_singleton] at h
    rw [h, UInt8.toNat_ofNat_of_lt' (Nat.lt_of_le_of_lt hsmall (by decide))]
    exact ⟨Nat.lt_succ_of_le hsmall, rfl⟩
  · right
    -- one case for each length of an encoding, and in it one for each of its bytes
    split at h
    · simp only [List.mem_cons, List.not_mem_nil, or_false] at h
      rcases h with h | h <;> exact hlong _ (by omega) (by omega) h
    · split at h
      · simp only [List.mem_cons, List.not_mem_nil, or_false] at h
        rcases h with h | h | h <;> exact hlong _ (by omega) (by omega) h
      · simp only [List.mem_cons, List.not_mem_nil, or_false] at h
        rcases h with h | h | h | h <;> exact hlong _ (by omega) (by omega) h

/-- The byte of a character below 128 stands in the bytes of no other character: what starts or
continues a longer encoding is 128 or more. -/
theorem mem_utf8EncodeChar {c : Char} (hmark : mark.toNat < 128)
    (h : mark.toUInt8 ∈ String.utf8EncodeChar c) : c = mark := by
  have hbyte := toNat_toUInt8 hmark
  apply Char.toNat_inj.1
  rcases byte_cases h with ⟨-, hsame⟩ | ⟨hlarge, -⟩ <;> omega

/-- No byte of a character is as large as 248. -/
theorem lt_of_mem_utf8 {b : UInt8} (h : b ∈ utf8 cs) : b.toNat < 248 := by
  obtain ⟨c, -, hbyte⟩ := List.mem_flatMap.1 h
  rcases byte_cases hbyte with ⟨hsmall, hsame⟩ | ⟨-, hsmall⟩ <;> omega

/-- A mark stands in a text where its byte stands among the bytes. -/
theorem mark_mem_utf8_iff (hmark : mark.toNat < 128) : mark.toUInt8 ∈ utf8 cs ↔ mark ∈ cs := by
  unfold utf8
  rw [List.mem_flatMap]
  constructor
  · rintro ⟨c, hc, hbyte⟩
    rwa [← mem_utf8EncodeChar hmark hbyte]
  · intro hc
    exact ⟨mark, hc, by rw [utf8EncodeChar_mark hmark]; exact List.mem_singleton_self _⟩

/-- A mark in front of a text is one byte in front of its bytes. -/
theorem utf8_mark_cons (hmark : mark.toNat < 128) (cs : List Char) :
    utf8 (mark :: cs) = mark.toUInt8 :: utf8 cs := by
  rw [utf8_cons, utf8EncodeChar_mark hmark, List.singleton_append]

/-! ## Taking apart -/

/-- What stands in front of the first separator goes into the first piece. -/
theorem split_append_of_not_mem {α : Type} [DecidableEq α] {sep : α} {front : List α}
    (h : sep ∉ front) (rest : List α) :
    split sep (front ++ rest) = (split sep rest).modifyHead (front ++ ·) := by
  obtain ⟨piece, more, hs⟩ := List.exists_cons_of_ne_nil (split_ne_nil sep rest)
  induction front with
  | nil => simp [hs]
  | cons c front ih =>
    have hc : ¬ c = sep := fun e => h (e ▸ List.mem_cons_self)
    rw [List.cons_append, split, if_neg hc, ih (fun m => h (List.mem_cons_of_mem _ m)), hs]
    rfl

/-- A text is split before it is encoded or afterwards, it makes no difference. -/
theorem split_utf8 (hmark : mark.toNat < 128) (cs : List Char) :
    split mark.toUInt8 (utf8 cs) = (split mark cs).map utf8 := by
  induction cs with
  | nil => rfl
  | cons c rest ih =>
    by_cases hc : c = mark
    · subst hc
      rw [utf8_mark_cons hmark, split, if_pos rfl, ih, split, if_pos rfl]
      rfl
    · have hfree : mark.toUInt8 ∉ String.utf8EncodeChar c :=
        fun h => hc (mem_utf8EncodeChar hmark h)
      obtain ⟨piece, more, hs⟩ := List.exists_cons_of_ne_nil (split_ne_nil mark rest)
      rw [utf8_cons, split_append_of_not_mem hfree, ih, split, if_neg hc, hs]
      simp [utf8_cons]

/-- Pieces are joined before they are encoded or afterwards, it makes no difference. -/
theorem join_utf8 (hmark : mark.toNat < 128) (pieces : List (List Char)) :
    join mark.toUInt8 (pieces.map utf8) = utf8 (join mark pieces) := by
  induction pieces with
  | nil => rfl
  | cons piece more ih =>
    cases more with
    | nil => rfl
    | cons next others =>
      have hbytes : (next :: others).map utf8 ≠ [] := by simp
      rw [List.map_cons, join_cons hbytes, ih, join_cons (List.cons_ne_nil next others),
        utf8_append, utf8_mark_cons hmark]

/-- A name is divided before it is encoded or afterwards, it makes no difference. -/
theorem divideLast_utf8 (hmark : mark.toNat < 128) (cs : List Char) :
    (divideLast mark.toUInt8 (utf8 cs)).1 = utf8 (divideLast mark cs).1 := by
  by_cases hmem : mark ∈ cs
  · -- The last mark has no other behind it, and so has its byte.
    obtain ⟨back, rest, hsplit, hback⟩ := List.eq_append_cons_of_mem (List.mem_reverse.2 hmem)
    obtain rfl : cs = rest.reverse ++ mark :: back.reverse := by
      rw [← List.reverse_reverse cs, hsplit]
      simp
    have hext : mark ∉ back.reverse := by rwa [List.mem_reverse]
    have hbytes : mark.toUInt8 ∉ utf8 back.reverse := fun h => hext ((mark_mem_utf8_iff hmark).1 h)
    rw [divideLast_append hext, utf8_append, utf8_mark_cons hmark, divideLast_append hbytes]
    simp only [utf8_eq_nil_iff]
    split
    · exact (utf8_mark_cons hmark _).symm
    · rfl
  · have hbytes : mark.toUInt8 ∉ utf8 cs := fun h => hmem ((mark_mem_utf8_iff hmark).1 h)
    rw [divideLast_of_not_mem hmem, divideLast_of_not_mem hbytes]

end Text

namespace Path

/-! ## Paths -/

/-- The slash is below 128. -/
theorem slash_isMark : '/'.toNat < 128 := by decide

/-- The dot is below 128. -/
theorem dot_isMark : '.'.toNat < 128 := by decide

/-- The bytes of a text spell the path that the text spells. -/
theorem ofBytes_utf8 (text : String) :
    RawPath.ofBytes (Text.utf8 text.toList) = (ofText text).raw := by
  unfold RawPath.ofBytes raw ofText
  rw [Text.split_utf8 slash_isMark, List.map_map]
  simp [Function.comp_def]

/-- The bytes of a path that is a text are those of its spelling. -/
theorem bytes_raw (p : Path) : p.raw.bytes = Text.utf8 p.text.toList := by
  unfold RawPath.bytes raw text
  rw [String.toList_ofList, ← Text.join_utf8 slash_isMark, List.map_map]
  rfl

/-- A message shows a path that is a text like any other text. -/
theorem quoted_raw (p : Path) : p.raw.quoted = Text.quoted p.text := by
  rw [RawPath.quoted, bytes_raw, Text.quotedBytes_utf8]

/-- The step of a piece that leads somewhere. -/
def stepOf (piece : String) : Part := if piece == ".." then .up else .name piece

/-- A piece that leads somewhere is a step. -/
theorem step?_eq_some {piece : String} (h : isIdle piece = false) :
    step? piece = some (stepOf piece) := by
  by_cases hup : piece = ".."
  · rw [hup]
    rfl
  · simp [step?, stepOf, h, hup]

/-- The steps of some pieces are those of the pieces that lead somewhere. -/
theorem filterMap_step? (pieces : List String) :
    pieces.filterMap step? = (pieces.filter (!isIdle ·)).map stepOf := by
  induction pieces with
  | nil => rfl
  | cons piece rest ih =>
    cases hi : isIdle piece with
    | true => simp [step?, hi, ih]
    | false => simp [step?_eq_some hi, hi, ih]

/-- The steps of a path: where it starts, if its first piece leads nowhere, and then the steps of
all pieces that lead somewhere. -/
theorem parts_eq (p : Path) :
    ∃ start : List Part, (∀ a ∈ start, a = .root ∨ a = .here) ∧
      p.parts = start ++ (p.pieces.filter (!isIdle ·)).map stepOf := by
  obtain ⟨pieces⟩ := p
  cases pieces with
  | nil => exact ⟨[], by simp, rfl⟩
  | cons first rest =>
    cases hi : isIdle first with
    | true =>
      refine ⟨if first == "" then (if rest.isEmpty then [] else [.root]) else [.here], ?_, ?_⟩
      · split
        · split <;> simp
        · simp
      · have hdot : ¬ first = "" → first = "." := by
          intro hne
          simpa [isIdle, hne] using hi
        by_cases hempty : first = ""
        · simp [parts, hempty, filterMap_step?, isIdle]
        · simp [parts, hdot hempty, filterMap_step?, isIdle]
    | false =>
      have hne : ¬ first = "" := by rintro rfl; exact absurd hi (by decide)
      have hdot : ¬ first = "." := by rintro rfl; exact absurd hi (by decide)
      refine ⟨[], by simp, ?_⟩
      simp [parts, hne, hdot, step?_eq_some hi, hi, filterMap_step?]

/-- The file name is the last piece that leads somewhere, unless it leads up. -/
theorem fileName?_eq (p : Path) :
    p.fileName? = (p.pieces.filter (!isIdle ·)).getLast?.filter (· != "..") := by
  obtain ⟨start, hstart, hparts⟩ := p.parts_eq
  unfold fileName?
  rw [hparts]
  cases hlast : (p.pieces.filter (!isIdle ·)).getLast? with
  | none =>
    rw [List.getLast?_eq_none_iff] at hlast
    rw [hlast, List.map_nil, List.append_nil]
    cases hs : start.getLast? with
    | none => rfl
    | some a =>
      rcases hstart a (List.mem_of_getLast? hs) with rfl | rfl <;> rfl
  | some n =>
    rw [List.getLast?_append, List.getLast?_map, hlast]
    by_cases hup : n = ".."
    · simp [stepOf, hup, Option.filter]
    · simp [stepOf, hup, Option.filter]

/-- A piece leads nowhere exactly if its bytes do. -/
theorem isIdle_utf8 (piece : String) :
    RawPath.isIdle (Text.utf8 piece.toList) = isIdle piece := by
  have hempty : Text.utf8 piece.toList = [] ↔ piece = "" := by
    rw [Text.utf8_eq_nil_iff, String.toList_eq_nil_iff]
  have hdot : Text.utf8 piece.toList = ['.'.toUInt8] ↔ piece = "." := by
    rw [← String.toList_inj]
    exact @Text.utf8_inj piece.toList ['.']
  rw [Bool.eq_iff_iff]
  simp [RawPath.isIdle, isIdle, hempty, hdot]

/-- The file name is encoded along with its path. -/
theorem fileName?_raw (p : Path) :
    p.raw.fileName? = p.fileName?.map fun n => Text.utf8 n.toList := by
  have hpieces : p.raw.pieces.filter (!RawPath.isIdle ·) =
      (p.pieces.filter (!isIdle ·)).map fun n => Text.utf8 n.toList := by
    unfold raw
    rw [List.filter_map]
    congr 2
    funext piece
    simp [isIdle_utf8]
  have hup : ∀ n : String, Text.utf8 n.toList = ['.'.toUInt8, '.'.toUInt8] ↔ n = ".." := by
    intro n
    rw [← String.toList_inj]
    exact @Text.utf8_inj n.toList ['.', '.']
  -- both file names are now the last piece that counts, unless it is two dots
  rw [fileName?_eq, RawPath.fileName?, hpieces, List.getLast?_map]
  cases (p.pieces.filter (!isIdle ·)).getLast? with
  | none => rfl
  | some n =>
    have hsame : (Text.utf8 n.toList != ['.'.toUInt8, '.'.toUInt8]) = (n != "..") := by
      rw [Bool.eq_iff_iff, bne_iff_ne, bne_iff_ne, Ne, Ne, hup]
    simp only [Option.map_some, Option.filter, hsame]
    split <;> rfl

/-- The stem is encoded along with its path. -/
theorem stem?_raw (p : Path) : p.raw.stem? = p.stem?.map fun s => Text.utf8 s.toList := by
  unfold RawPath.stem? stem?
  rw [fileName?_raw]
  cases p.fileName? with
  | none => rfl
  | some n => simp [Text.divideLast_utf8 dot_isMark]

/-- The stem of a path that is a text is a text. -/
theorem stemText?_raw (p : Path) : p.raw.stemText? = p.stem? := by
  unfold RawPath.stemText?
  rw [stem?_raw]
  cases p.stem? with
  | none => rfl
  | some stem => simp [Text.ofUtf8?_utf8]

end Path

end PushToTalk
