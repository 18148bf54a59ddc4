/-
  Sets of characters written down as ranges of code points.

  Properties of the Unicode standard come as lists of such ranges.  They are kept as lines of
  `first-last` pairs of hexadecimal numbers in ascending order, because that is how a reader
  compares them with the standard.
-/

namespace PushToTalk.Text

/-- The value of a hexadecimal digit of either case. -/
def hexDigit? (c : Char) : Option Nat :=
  if '0' ≤ c && c ≤ '9' then some (c.toNat - 48)
  else if 'a' ≤ c && c ≤ 'f' then some (c.toNat - 87)
  else if 'A' ≤ c && c ≤ 'F' then some (c.toNat - 55)
  else none

/-- The number that a run of hexadecimal digits stands for; other characters count as zero. -/
def hexValue (ds : List Char) : Nat :=
  ds.foldl (fun n c => 16 * n + (hexDigit? c).getD 0) 0

/-- The hexadecimal digits of a number, lower case, without leading zeros. -/
def hexDigits (n : Nat) : List Char :=
  if n < 16 then [Nat.digitChar n] else hexDigits (n / 16) ++ [Nat.digitChar (n % 16)]
termination_by n
decreasing_by omega

/-- Ranges of code points, both ends included. -/
structure Ranges where
  /-- First and last code point of each range, ascending. -/
  bounds : Array (Nat × Nat)

namespace Ranges

/-- Reads lines of `first-last` pairs, or single code points, set apart by spaces. -/
def ofLines (lines : List String) : Ranges where
  bounds := (lines.flatMap (·.splitOn " ")).toArray.map fun word =>
    match word.splitOn "-" with
    | [first, last] => (hexValue first.toList, hexValue last.toList)
    | _ => (hexValue word.toList, hexValue word.toList)

/-- Looks for `n` between the ranges `low` and `high`, halving the gap. -/
def search (r : Ranges) (n low high : Nat) : Bool :=
  if low < high then
    match r.bounds[(low + high) / 2]? with
    | none => false
    | some (first, last) =>
      if n < first then r.search n low ((low + high) / 2)
      else if last < n then r.search n ((low + high) / 2 + 1) high
      else true
  else false
termination_by high - low
decreasing_by all_goals omega

/-- Whether the character lies in one of the ranges. -/
def contains (r : Ranges) (c : Char) : Bool := r.search c.toNat 0 r.bounds.size

end Ranges

end PushToTalk.Text
