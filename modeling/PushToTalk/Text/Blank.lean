/-
  White space: which characters count as blank when a text is trimmed, for every script.

  Main statement: `blank_of_ascii`, the ASCII blanks of the core library are among them.
-/

namespace PushToTalk.Text

/-- A character with the Unicode property White_Space. -/
def isBlank (c : Char) : Bool :=
  c == ' ' || ('\t' ≤ c && c ≤ '\r') || c == '\u0085' || c == '\u00a0' || c == '\u1680'
    || ('\u2000' ≤ c && c ≤ '\u200a') || c == '\u2028' || c == '\u2029' || c == '\u202f'
    || c == '\u205f' || c == '\u3000'

/-- What the core library calls white space is blank here too. -/
theorem blank_of_ascii (c : Char) (h : c.isWhitespace = true) : isBlank c = true := by
  simp only [Char.isWhitespace, Bool.or_eq_true, decide_eq_true_eq] at h
  rcases h with ((rfl | rfl) | rfl) | rfl <;> decide

/-- Whether nothing is left of a text once the blanks around it are gone. -/
def allBlank (s : String) : Bool := s.toList.all isBlank

end PushToTalk.Text
