/-
  Decimal numerals: the digits of a natural number, and the number a run of digits stands for.

  Everything that is numbered by the relay (session folders, file chunks, user ids, tick values)
  is written with `digits` and read back with `value`, so the two are defined side by side.

  Main statement: `value_digits`, a number is read back from its own numeral.
-/

namespace PushToTalk.Text.Numeral

/-! ## Digits -/

/-- The character of a digit below ten. -/
def digitChar (d : Nat) : Char := Char.ofNat (48 + d)

/-- An ASCII decimal digit; no other script's digits count. -/
def isDigit (c : Char) : Bool := '0' ≤ c && c ≤ '9'

/-- The value of a digit character. -/
def digitValue (c : Char) : Nat := c.toNat - 48

/-- A digit has the value that it is the character of. -/
theorem digitValue_digitChar {d : Nat} (h : d < 10) : digitValue (digitChar d) = d := by
  have all : ∀ e ∈ List.range 10, digitValue (digitChar e) = e := by decide
  exact all d (List.mem_range.2 h)

/-- The character of a digit is a digit. -/
theorem isDigit_digitChar {d : Nat} (h : d < 10) : isDigit (digitChar d) = true := by
  have all : ∀ e ∈ List.range 10, isDigit (digitChar e) = true := by decide
  exact all d (List.mem_range.2 h)

/-! ## Natural numbers -/

/-- The shortest numeral of `n`, most significant digit first. -/
def digits (n : Nat) : List Char :=
  if n < 10 then [digitChar n] else digits (n / 10) ++ [digitChar (n % 10)]
termination_by n
decreasing_by omega

/-- The number a run of digits stands for; leading zeros change nothing. -/
def value (ds : List Char) : Nat :=
  ds.foldl (fun n c => 10 * n + digitValue c) 0

/-- One more digit behind the others counts for the ones. -/
theorem value_concat (ds : List Char) (c : Char) :
    value (ds ++ [c]) = 10 * value ds + digitValue c := by
  simp [value, List.foldl_append]

/-- A number is read back from its own numeral. -/
theorem value_digits (n : Nat) : value (digits n) = n := by
  induction n using Nat.strongRecOn with
  | _ n ih =>
    rw [digits]
    split
    · next h => simp [value, digitValue_digitChar h]
    · next h =>
      rw [value_concat, ih (n / 10) (by omega), digitValue_digitChar (Nat.mod_lt _ (by omega))]
      omega

/-- The digits of a number are digits. -/
theorem isDigit_of_mem_digits (n : Nat) : ∀ c ∈ digits n, isDigit c = true := by
  induction n using Nat.strongRecOn with
  | _ n ih =>
    intro c hc
    rw [digits] at hc
    split at hc
    · next h =>
      obtain rfl := List.mem_singleton.1 hc
      exact isDigit_digitChar h
    · rcases List.mem_append.1 hc with h | h
      · exact ih (n / 10) (by omega) c h
      · obtain rfl := List.mem_singleton.1 h
        exact isDigit_digitChar (Nat.mod_lt _ (by omega))

/-- Every number has digits, also zero. -/
theorem digits_ne_nil (n : Nat) : digits n ≠ [] := by
  rw [digits]
  split <;> simp

/-- The numeral of `n` as text. -/
def ofNat (n : Nat) : String := String.ofList (digits n)

/-! ## Integers -/

/-- The numeral of an integer: a minus sign in front of the digits of a negative one. -/
def signed (i : Int) : List Char :=
  if i < 0 then '-' :: digits i.natAbs else digits i.natAbs

/-- The numeral of an integer as text. -/
def ofInt (i : Int) : String := String.ofList (signed i)

/-! ## Reading a numeral of limited size -/

/-- Reads an optional plus sign and a nonempty run of digits whose value stays below `limit`. -/
def bounded? (limit : Nat) (text : String) : Option Nat :=
  let ds := match text.toList with
    | '+' :: rest => rest
    | all => all
  if ds.isEmpty || !ds.all isDigit then none
  else if value ds < limit then some (value ds) else none

end PushToTalk.Text.Numeral
