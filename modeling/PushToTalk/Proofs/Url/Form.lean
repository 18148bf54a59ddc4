import PushToTalk.Proofs.Url.Percent
import PushToTalk.Url.Form

/-
  Forms read back: a query gives the pairs that were written, in order.

  The query of a request is a form: pairs of a key and a value, each spelled so that the marks
  between them cannot be mistaken.  Forms are spelled nearly like the other parts of an address, but
  a blank is a plus sign in them.  To use what is known of escaped texts, that one difference is
  undone first (`unplus`).

  1. **Keys and values** — with its plus signs turned back into blanks, the spelling of a text is
     that text with some of its bytes escaped (`unplus_writeText`); hence it is read back
     (`readText?_writeText`).

  2. **Pairs** — neither an equals sign nor an ampersand stands in the spelling of a key or a value
     (`not_mem_writeText`), so that both are found where the pair, or the form, was put together.

  3. **Forms** — no pair is empty, since each has its equals sign; the reader would leave out empty
     ones.

  Main statement: `read?_write`.
-/

namespace PushToTalk.Url.Form

variable {pairs : List (String × String)}

/-! ## Keys and values -/

/-- Plus signs turned back into blanks. -/
def unplus (cs : List Char) : List Char := cs.map fun c => if c == '+' then ' ' else c

/-- Whether a byte is escaped: neither plain nor a blank. -/
def isEscaped (b : UInt8) : Bool := !isPlain b && b != 32

/-- No hexadecimal digit is a plus sign. -/
theorem hexUpper_ne_plus {n : Nat} (h : n < 16) : hexUpper n ≠ '+' := by
  intro heq
  have hdigit := hexDigit_hexUpper h
  rw [heq] at hdigit
  cases hdigit

/-- There is no plus sign in an escape. -/
theorem unplus_escapeByte (b : UInt8) : unplus (escapeByte b) = escapeByte b := by
  have hb : b.toNat < 256 := b.toNat_lt
  have hhigh : hexUpper (b.toNat / 16) ≠ '+' := hexUpper_ne_plus (by omega)
  have hlow : hexUpper (b.toNat % 16) ≠ '+' := hexUpper_ne_plus (by omega)
  simp [unplus, escapeByte, hhigh, hlow]

/-- A byte is written as it is, as an escape, or as a plus sign, and the last of these is undone. -/
theorem unplus_writeByte (b : UInt8) :
    unplus (writeByte b) = if 128 ≤ b || isEscaped b then escapeByte b else [asciiChar b] := by
  unfold writeByte isEscaped
  cases hplain : isPlain b with
  | true =>
    -- A plain character is below 128 and no plus sign.
    have hlow : ¬ 128 ≤ b := by
      intro hle
      simp [isPlain, UInt8.not_lt.2 hle] at hplain
    have hplus : asciiChar b ≠ '+' := by
      intro heq
      simp [isPlain, heq] at hplain
    simp [hlow, unplus, hplus]
  | false =>
    cases hblank : b == 32 with
    | true =>
      obtain rfl := eq_of_beq hblank
      decide
    | false =>
      have hne : (b != 32) = true := by rw [bne, hblank, Bool.not_false]
      simp [unplus_escapeByte, hne]

/-- But for the plus signs, a text is spelled with some of its bytes escaped. -/
theorem unplus_writeText (s : String) :
    unplus (writeText s) = encode isEscaped (Text.utf8 s.toList) := by
  unfold writeText encode
  generalize Text.utf8 s.toList = bytes
  induction bytes with
  | nil => rfl
  | cons b rest ih =>
    rw [List.flatMap_cons, List.flatMap_cons, ← ih, ← unplus_writeByte, unplus, List.map_append]
    rfl

/-- A key or a value is read back. -/
theorem readText?_writeText (s : String) : readText? (writeText s) = some s := by
  show decodeText? (unplus (writeText s)) = some s
  rw [unplus_writeText, decodeText?_encode (by decide), String.ofList_toList]

/-- A mark that is neither a plus sign nor a blank, and is escaped, does not stand in a key or a
value. -/
theorem not_mem_writeText {mark : Char} (hplus : (mark == '+') = false)
    (h : shows isEscaped mark = false) (s : String) : mark ∉ writeText s := by
  intro hm
  have hmap : mark ∈ unplus (writeText s) := by
    rw [unplus, List.mem_map]
    exact ⟨mark, hm, by rw [hplus]; rfl⟩
  rw [unplus_writeText] at hmap
  exact not_mem_encode h _ hmap

/-! ## Pairs -/

/-- A pair is read back: the first equals sign is the one between its key and its value. -/
theorem readPair?_writePair (pair : String × String) :
    readPair? (writePair pair) = some pair := by
  have hkey : '=' ∉ writeText pair.1 := not_mem_writeText rfl (by decide +kernel) _
  have hdivided := Text.divide_append (Text.goesOn_of_not_mem hkey) ('=' :: writeText pair.2)
    (by simp)
  unfold readPair? writePair
  simp only [hdivided.1]
  rw [readText?_writeText, List.drop_append, List.drop_eq_nil_of_le (by omega), List.nil_append,
    Nat.add_sub_cancel_left, List.drop_one, List.tail_cons, readText?_writeText]

/-- A mark that does not stand in a key or a value, nor between two of them, is not in a pair. -/
theorem not_mem_writePair {mark : Char} (hplus : (mark == '+') = false) (hequals : mark ≠ '=')
    (h : shows isEscaped mark = false) (pair : String × String) : mark ∉ writePair pair := by
  intro hm
  rcases List.mem_append.1 hm with hm | hm
  · exact not_mem_writeText hplus h _ hm
  · rcases List.mem_cons.1 hm with hm | hm
    · exact hequals hm
    · exact not_mem_writeText hplus h _ hm

/-! ## Forms -/

/-- A form is read back, in order. -/
theorem read?_write (hne : pairs ≠ []) : read? (write pairs) = some pairs := by
  have hpieces : pairs.map writePair ≠ [] := by simpa using hne
  have hand : ∀ piece ∈ pairs.map writePair, '&' ∉ piece := by
    intro piece hp
    obtain ⟨pair, -, rfl⟩ := List.mem_map.1 hp
    exact not_mem_writePair rfl (by decide) (by decide +kernel) pair
  -- No pair is left out for being empty: each has its equals sign.
  have hall : (pairs.map writePair).filter (!·.isEmpty) = pairs.map writePair := by
    rw [List.filter_eq_self]
    intro piece hp
    obtain ⟨pair, -, rfl⟩ := List.mem_map.1 hp
    simp [writePair]
  rw [read?, write, Text.split_join hpieces hand, hall]
  exact mapM_map_eq_some fun pair _ => readPair?_writePair pair

/-- The number sign does not stand in a form. -/
theorem number_sign_not_mem_write : '#' ∉ write pairs := by
  intro hm
  rcases Text.mem_join hm with hm | ⟨piece, hp, hm⟩
  · exact absurd hm (by decide)
  · obtain ⟨pair, -, rfl⟩ := List.mem_map.1 hp
    exact not_mem_writePair rfl (by decide) (by decide +kernel) pair hm

end PushToTalk.Url.Form
