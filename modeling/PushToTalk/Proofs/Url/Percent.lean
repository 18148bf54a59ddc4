import PushToTalk.Url.Percent

/-
  Escaped texts: which characters they are made of, and that they spell the text they were made
  from.

  Each part of an address has a set of bytes that are escaped in it, and what the set leaves alone
  stands for itself.  The statements here are about any such set.  The first kind says what cannot
  be in a text that was escaped, which keeps the marks between the parts of an address apart from
  what is in them; the second kind says that nothing is lost.

  1. **Characters** — an escaped text has percent signs, hexadecimal digits and what the set of
     escaped bytes leaves alone, and nothing else (`shows_of_mem_encode`).  So a mark that the set
     escapes never stands in it (`not_mem_encode`), and for a given set and mark that is computed.

  2. **Texts** — a spelling gives the text whose bytes it decodes to (`decodeText?_eq_some_iff`),
     hence an escaped text gives back what was escaped (`decodeText?_encode`).  For this the percent
     sign itself has to be in the set.
-/

namespace PushToTalk.Url

/-! ## Characters -/

/-- Whether a character can stand in an escaped text. -/
def shows (escaped : UInt8 → Bool) (c : Char) : Bool :=
  c == '%' || (Text.hexDigit? c).isSome || decide (c.toNat < 128) && !escaped (UInt8.ofNat c.toNat)

/-- The number of the character of a byte is that of the byte. -/
theorem toNat_asciiChar {b : UInt8} : (asciiChar b).toNat = b.toNat := by
  have hvalid : b.toNat.isValidChar := Or.inl (Nat.lt_trans b.toNat_lt (by decide))
  rw [asciiChar, Char.ofNat, dif_pos hvalid]
  rfl

/-- An escape is a percent sign and two hexadecimal digits. -/
theorem mem_escapeByte {b : UInt8} {c : Char} (h : c ∈ escapeByte b) :
    c = '%' ∨ (Text.hexDigit? c).isSome := by
  have hb : b.toNat < 256 := b.toNat_lt
  rcases List.mem_cons.1 h with rfl | h
  · exact Or.inl rfl
  · right
    rcases List.mem_cons.1 h with rfl | h
    · rw [hexDigit_hexUpper (by omega)]
      rfl
    · rw [List.mem_singleton.1 h, hexDigit_hexUpper (by omega)]
      rfl

/-- What stands in an escaped text can stand there: it comes from an escape, or it is a byte
below 128 that is left alone. -/
theorem shows_of_mem_encode {escaped : UInt8 → Bool} {bytes : List UInt8} {c : Char}
    (h : c ∈ encode escaped bytes) : shows escaped c = true := by
  obtain ⟨b, -, hc⟩ := List.mem_flatMap.1 h
  unfold shows
  split at hc
  · rcases mem_escapeByte hc with rfl | hc
    · rfl
    · rw [hc, Bool.or_true, Bool.true_or]
  · next hplain =>
    obtain rfl := List.mem_singleton.1 hc
    simp only [Bool.or_eq_true, decide_eq_true_eq, not_or, Bool.not_eq_true, UInt8.not_le] at hplain
    have hlow : b.toNat < 128 := UInt8.lt_iff_toNat_lt.1 hplain.1
    rw [toNat_asciiChar, UInt8.ofNat_toNat, hplain.2, decide_eq_true hlow, Bool.not_false,
      Bool.and_true, Bool.or_true]

/-- A mark that is escaped does not stand in an escaped text. -/
theorem not_mem_encode {escaped : UInt8 → Bool} {mark : Char} (h : shows escaped mark = false)
    (bytes : List UInt8) : mark ∉ encode escaped bytes := by
  intro hm
  rw [shows_of_mem_encode hm] at h
  cases h

/-- An ASCII character is the character of its byte. -/
theorem asciiChar_ofNat_toNat {c : Char} (h : c.toNat < 128) :
    asciiChar (UInt8.ofNat c.toNat) = c := by
  have hbyte : (UInt8.ofNat c.toNat).toNat = c.toNat := UInt8.toNat_ofNat_of_lt' (by
    show c.toNat < 256
    omega)
  rw [asciiChar, hbyte, Char.ofNat_toNat]

/-- A text of ASCII characters that are not escaped is its own spelling. -/
theorem encode_of_forall {escaped : UInt8 → Bool} {cs : List Char}
    (h : ∀ c ∈ cs, c.toNat < 128 ∧ escaped (UInt8.ofNat c.toNat) = false) :
    encode escaped (Text.utf8 cs) = cs := by
  induction cs with
  | nil => rfl
  | cons c rest ih =>
    obtain ⟨hlow, hplain⟩ := h c List.mem_cons_self
    have hchar := asciiChar_ofNat_toNat hlow
    have hbyte : ¬ 128 ≤ UInt8.ofNat c.toNat := by
      rw [UInt8.le_iff_toNat_le, UInt8.toNat_ofNat_of_lt' (by show c.toNat < 256; omega)]
      exact Nat.not_le.2 hlow
    -- such a character has one byte in UTF-8
    have hbytes : String.utf8EncodeChar c = [UInt8.ofNat c.toNat] := by
      have hencode := utf8EncodeChar_asciiChar hbyte
      rwa [hchar] at hencode
    have hrest := ih fun c' hc => h c' (List.mem_cons_of_mem _ hc)
    rw [Text.utf8, List.flatMap_cons, hbytes, List.singleton_append, encode, List.flatMap_cons,
      if_neg (by simp [hplain, hbyte]), hchar]
    exact congrArg (c :: ·) hrest

/-! ## Texts -/

/-- A spelling gives the text whose bytes it decodes to. -/
theorem decodeText?_eq_some_iff {cs : List Char} {s : String} :
    decodeText? cs = some s ↔ decode cs = Text.utf8 s.toList := Text.ofUtf8?_eq_some_iff

/-- An escaped text gives back what was escaped. -/
theorem decodeText?_encode {escaped : UInt8 → Bool} (percent : escaped 37 = true)
    (cs : List Char) : decodeText? (encode escaped (Text.utf8 cs)) = some (String.ofList cs) := by
  rw [decodeText?_eq_some_iff, decode_encode percent, String.toList_ofList]

/-- Spellings that are each read back are read back one after the other. -/
theorem mapM_map_eq_some {α : Type} {read : List Char → Option α} {spell : α → List Char}
    {xs : List α} (h : ∀ x ∈ xs, read (spell x) = some x) : (xs.map spell).mapM read = some xs := by
  induction xs with
  | nil => rfl
  | cons x rest ih =>
    rw [List.map_cons, List.mapM_cons, h x List.mem_cons_self,
      ih fun y hy => h y (List.mem_cons_of_mem _ hy)]
    rfl

end PushToTalk.Url
