import Mathlib
import PushToTalk.Text.Numeral

/-
  Numerals as others know them.

  Ids, ports and ticks are written as decimal numerals, and read by programs that are not part of
  this one.  So it matters that a run of digits stands for the number that it spells in base ten, as
  everyone would say, and that the numeral of an integer is the one that the core library writes.

  1. **Digits** — by induction from the last digit on, as that is how the reader goes: `10 * n + d`.

  2. **Numerals** — they are those of the core library, so its reader reads them (`toInt?_ofInt`),
     and different integers have different numerals.

  Main statements: `value_eq_ofDigits`, `ofInt_eq_repr` and `toInt?_ofInt`.
-/

namespace PushToTalk.Text.Numeral

/-- A run of digits stands for the number with these digits, the last one for the ones. -/
theorem value_eq_ofDigits (ds : List Char) :
    value ds = Nat.ofDigits 10 (ds.reverse.map digitValue) := by
  induction ds using List.reverseRecOn with
  | nil => rfl
  | append_singleton ds c ih =>
    rw [value_concat, ih, List.reverse_concat, List.map_cons, Nat.ofDigits_cons]
    exact Nat.add_comm _ _

/-- The characters of the digits are those of the core library. -/
theorem digitChar_eq {d : Nat} (h : d < 10) : digitChar d = Nat.digitChar d := by
  have all : ∀ e ∈ List.range 10, digitChar e = Nat.digitChar e := by decide
  exact all d (List.mem_range.2 h)

/-- The digits of a number are those of the core library. -/
theorem digits_eq_toDigits (n : Nat) : digits n = Nat.toDigits 10 n := by
  induction n using Nat.strongRecOn with
  | _ n ih =>
    rw [digits, Nat.toDigits_eq_if (by decide)]
    split
    · next h => rw [digitChar_eq h]
    · next h => rw [ih (n / 10) (by omega), digitChar_eq (Nat.mod_lt _ (by decide))]

/-- The numeral of a number is the one of the core library. -/
theorem ofNat_eq_repr (n : Nat) : ofNat n = n.repr := by
  rw [ofNat, digits_eq_toDigits, Nat.repr_eq_ofList_toDigits]

/-- A numeral is a run of digits, or a minus sign in front of one. -/
theorem signed_cases (i : Int) : (∃ m : Nat, i = m ∧ signed i = digits m) ∨
    ∃ m : Nat, i = -m ∧ 0 < m ∧ signed i = '-' :: digits m := by
  unfold signed
  split
  · exact Or.inr ⟨i.natAbs, by omega, by omega, rfl⟩
  · exact Or.inl ⟨i.natAbs, by omega, rfl⟩

/-- The numeral of an integer, minus sign included, is the one of the core library. -/
theorem ofInt_eq_repr (i : Int) : ofInt i = i.repr := by
  have hdigits : ∀ n, String.ofList (digits n) = n.repr := ofNat_eq_repr
  rw [ofInt, Int.repr_eq_if]
  obtain ⟨m, rfl, h⟩ | ⟨m, rfl, hm, h⟩ := signed_cases i
  · rw [h, hdigits, if_pos (Int.natCast_nonneg m), Int.toNat_natCast]
  · have hminus : String.ofList ('-' :: digits m) = "-" ++ String.ofList (digits m) :=
      @String.ofList_append ['-'] (digits m)
    rw [h, hminus, hdigits, if_neg (by omega), Int.neg_neg, Int.toNat_natCast]

/-- The core library reads a numeral back. -/
theorem toInt?_ofInt (i : Int) : (ofInt i).toInt? = some i := by
  rw [ofInt_eq_repr]
  exact Int.toInt?_repr i

/-- Different integers have different numerals. -/
theorem signed_injective : Function.Injective signed := by
  intro i j h
  have hread := toInt?_ofInt i
  rw [ofInt, h, ← ofInt, toInt?_ofInt] at hread
  exact (Option.some.inj hread).symm

end PushToTalk.Text.Numeral
