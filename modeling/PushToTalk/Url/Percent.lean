import PushToTalk.Text.Ranges
import PushToTalk.Text.Utf8

/-
  Percent escapes in addresses.

  A byte is escaped as a percent sign and two upper-case hexadecimal digits.  Decoding takes
  every well-formed escape, of either case, and leaves any other percent sign as it is.

  Main statement: `decode_encode`, decoding gives back what was encoded, whichever bytes were
  escaped, as long as the percent sign itself was.
-/

namespace PushToTalk.Url

/-- The upper-case hexadecimal digit of a number below sixteen. -/
def hexUpper (n : Nat) : Char := if n < 10 then Char.ofNat (48 + n) else Char.ofNat (55 + n)

/-- The character of an ASCII byte. -/
def asciiChar (b : UInt8) : Char := Char.ofNat b.toNat

/-- The escape of a byte. -/
def escapeByte (b : UInt8) : List Char :=
  ['%', hexUpper (b.toNat / 16), hexUpper (b.toNat % 16)]

/-- Writes bytes as ASCII text, escaping those in a set; bytes beyond ASCII always are. -/
def encode (escaped : UInt8 → Bool) (bytes : List UInt8) : List Char :=
  bytes.flatMap fun b => if 128 ≤ b || escaped b then escapeByte b else [asciiChar b]

/-- The bytes of a text with its escapes undone. -/
def decode (cs : List Char) : List UInt8 :=
  match cs with
  | '%' :: a :: b :: rest =>
    match Text.hexDigit? a, Text.hexDigit? b with
    | some high, some low => UInt8.ofNat (16 * high + low) :: decode rest
    | _, _ => 37 :: decode (a :: b :: rest)
  | c :: rest => String.utf8EncodeChar c ++ decode rest
  | [] => []
termination_by cs.length

/-- The text that the decoded bytes spell, if they spell one. -/
def decodeText? (cs : List Char) : Option String := Text.ofUtf8? (decode cs)

/-- The character of a hex digit is read as that digit. -/
theorem hexDigit_hexUpper {n : Nat} (h : n < 16) : Text.hexDigit? (hexUpper n) = some n := by
  have all : ∀ m ∈ List.range 16, Text.hexDigit? (hexUpper m) = some m := by decide
  exact all n (List.mem_range.2 h)

/-- An escaped byte is decoded to itself. -/
theorem decode_escapeByte (b : UInt8) (rest : List Char) :
    decode (escapeByte b ++ rest) = b :: decode rest := by
  have hb : b.toNat < 256 := b.toNat_lt
  have high : b.toNat / 16 < 16 := by omega
  have low : b.toNat % 16 < 16 := by omega
  simp only [escapeByte, List.cons_append, List.nil_append]
  rw [decode]
  simp only [hexDigit_hexUpper high, hexDigit_hexUpper low]
  congr 1
  rw [Nat.div_add_mod]
  exact UInt8.ofNat_toNat

/-- The character of a byte below 128 is encoded as that byte. -/
theorem utf8EncodeChar_asciiChar {b : UInt8} (h : ¬ 128 ≤ b) :
    String.utf8EncodeChar (asciiChar b) = [b] := by
  have all : ∀ n ∈ List.range 128,
      String.utf8EncodeChar (asciiChar (UInt8.ofNat n)) = [UInt8.ofNat n] := by
    decide +kernel
  have hb : b.toNat < 128 := by
    simpa [UInt8.le_iff_toNat_le] using h
  have := all b.toNat (List.mem_range.2 hb)
  rwa [UInt8.ofNat_toNat] at this

/-- Only one byte has the percent sign for its character. -/
theorem asciiChar_ne_percent {b : UInt8} (h : b ≠ 37) (low : ¬ 128 ≤ b) : asciiChar b ≠ '%' := by
  have all : ∀ n ∈ List.range 128, n ≠ 37 → asciiChar (UInt8.ofNat n) ≠ '%' := by
    decide +kernel
  have hb : b.toNat < 128 := by
    simpa [UInt8.le_iff_toNat_le] using low
  have hn : b.toNat ≠ 37 := by
    intro e
    apply h
    rw [← UInt8.ofNat_toNat (x := b), e]
    rfl
  have := all b.toNat (List.mem_range.2 hb) hn
  rwa [UInt8.ofNat_toNat] at this

/-- Any character but a percent sign is decoded to its bytes. -/
theorem decode_cons {c : Char} (h : c ≠ '%') (rest : List Char) :
    decode (c :: rest) = String.utf8EncodeChar c ++ decode rest := by
  rw [decode]
  intro a b r e
  exact absurd e h

/-- Decoding gives back what was encoded, if percent signs are escaped. -/
theorem decode_encode {escaped : UInt8 → Bool} (percent : escaped 37 = true)
    (bytes : List UInt8) : decode (encode escaped bytes) = bytes := by
  induction bytes with
  | nil => rw [encode, List.flatMap_nil, decode]
  | cons b rest ih =>
    rw [encode, List.flatMap_cons]
    rw [encode] at ih
    split
    · rw [decode_escapeByte, ih]
    · next h =>
      simp only [Bool.or_eq_true, decide_eq_true_eq, not_or] at h
      have hp : b ≠ 37 := by
        rintro rfl
        exact h.2 percent
      rw [List.singleton_append, decode_cons (asciiChar_ne_percent hp h.1),
        utf8EncodeChar_asciiChar h.1, ih]
      rfl

end PushToTalk.Url
