import PushToTalk.Text.Printable
import PushToTalk.Text.Utf8

/-
  Quoted texts, as messages show them: between double quotes, on one line, unambiguous.

  A quote and a backslash take a backslash; tab, line feed, carriage return and NUL have escapes
  of one letter; anything else that cannot be seen is given by its code point.  Bytes that need
  not be a text are quoted in the same way (`quotedBytes`), and a byte that is part of no character
  is given by its number.

  Main statements: `escape_of_plain` and `quoted_of_plain`, a text of plain characters stands
  between its quotes as it is, and `quotedBytes_utf8`, the bytes of a text are quoted like the
  text.
-/

namespace PushToTalk.Text

/-- The spelling of one character inside quotes. -/
def escape (c : Char) : List Char :=
  if c == '"' then ['\\', '"']
  else if c == '\\' then ['\\', '\\']
  else if c == '\n' then ['\\', 'n']
  else if c == '\r' then ['\\', 'r']
  else if c == '\t' then ['\\', 't']
  else if c == '\x00' then ['\\', '0']
  else if isPrintable c then [c]
  else ['\\', 'u', '\x7b'] ++ hexDigits c.toNat ++ ['\x7d']

/-- A text between double quotes. -/
def quoted (s : String) : String :=
  String.ofList ('"' :: (s.toList.flatMap escape ++ ['"']))

/-- The spelling of a byte that is part of no character: its number, in two digits. -/
def escapeByte (b : UInt8) : List Char :=
  ['\\', 'x'] ++ (hexDigits b.toNat).map Char.toUpper

/-- The spelling of bytes inside quotes.  Where they begin with a character it is spelled as in a
text; any other byte is spelled on its own. -/
def escapeBytes : List UInt8 → List Char
  | [] => []
  | b :: rest =>
    match firstChar? (b :: rest) with
    | some c => escape c ++ escapeBytes ((b :: rest).drop c.utf8Size)
    | none => escapeByte b ++ escapeBytes rest
termination_by bytes => bytes.length
decreasing_by
  · have hsize := c.utf8Size_pos
    simp only [List.length_drop, List.length_cons]
    omega
  · simp

/-- Bytes between double quotes. -/
def quotedBytes (bytes : List UInt8) : String :=
  String.ofList ('"' :: (escapeBytes bytes ++ ['"']))

/-- A character that is neither a quote nor a backslash and can be seen. -/
def isPlain (c : Char) : Bool :=
  c != '"' && c != '\\' && ' ' ≤ c && isPrintable c

/-- A plain character stands for itself inside quotes. -/
theorem escape_of_plain {c : Char} (h : isPlain c = true) : escape c = [c] := by
  simp only [isPlain, Bool.and_eq_true, bne_iff_ne, ne_eq, decide_eq_true_eq] at h
  obtain ⟨⟨⟨hq, hb⟩, hs⟩, hp⟩ := h
  have n1 : c ≠ '\n' := by rintro rfl; revert hs; decide
  have n2 : c ≠ '\r' := by rintro rfl; revert hs; decide
  have n3 : c ≠ '\t' := by rintro rfl; revert hs; decide
  have n4 : c ≠ '\x00' := by rintro rfl; revert hs; decide
  simp [escape, hq, hb, n1, n2, n3, n4, hp]

/-- A text of plain characters stands between its quotes as it is. -/
theorem quoted_of_plain {s : String} (h : s.toList.all isPlain = true) :
    quoted s = String.ofList ('"' :: (s.toList ++ ['"'])) := by
  have each : s.toList.flatMap escape = s.toList := by
    generalize s.toList = cs at h
    induction cs with
    | nil => rfl
    | cons c rest ih =>
      simp only [List.all_cons, Bool.and_eq_true] at h
      simp [escape_of_plain h.1, ih h.2]
  rw [quoted, each]

/-- The bytes of a text are spelled as the text is, character by character. -/
theorem escapeBytes_utf8 (cs : List Char) : escapeBytes (utf8 cs) = cs.flatMap escape := by
  induction cs with
  | nil => rw [utf8_nil, escapeBytes, List.flatMap_nil]
  | cons c rest ih =>
    have hlength := String.length_utf8EncodeChar c
    have hfirst := firstChar?_utf8_cons c (utf8 rest)
    have hdrop : (utf8 (c :: rest)).drop c.utf8Size = utf8 rest := by
      rw [utf8_cons, ← hlength, List.drop_left]
    rw [← utf8_cons] at hfirst
    cases hbytes : utf8 (c :: rest) with
    | nil => exact absurd (utf8_eq_nil_iff.1 hbytes) (List.cons_ne_nil c rest)
    | cons b more =>
      rw [hbytes] at hfirst hdrop
      rw [escapeBytes, hfirst, List.flatMap_cons]
      simp only [hdrop, ih]

/-- The bytes of a text are quoted like the text. -/
theorem quotedBytes_utf8 (s : String) : quotedBytes (utf8 s.toList) = quoted s := by
  rw [quotedBytes, escapeBytes_utf8, quoted]

end PushToTalk.Text
