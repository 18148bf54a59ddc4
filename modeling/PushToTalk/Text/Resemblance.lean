/-
  How much one word resembles another.

  Two characters match if they are equal and their places are not far apart.  The measure is the
  mean of three shares: the matched characters of each word, and the matches that come in the
  same order.  It is one for equal words and zero for words without a match.
-/

namespace PushToTalk.Text

/-- Marks the first unmarked `c` at the places from `low` up to `high`, `place` being that of the
first character. -/
def markFirst (c : Char) (low high place : Nat) : List (Char × Bool) → Option (List (Char × Bool))
  | [] => none
  | (d, marked) :: rest =>
    if high ≤ place then none
    else if low ≤ place && c == d && !marked then some ((d, true) :: rest)
    else (markFirst c low high (place + 1) rest).map ((d, marked) :: ·)

/-- Matches characters one after the other; gives those that found a match, and the other word
with the matched ones marked. -/
def matchAll (reach place : Nat) : List Char → List (Char × Bool) → List Char × List (Char × Bool)
  | [], other => ([], other)
  | c :: rest, other =>
    match markFirst c (place - reach) (place + reach + 1) 0 other with
    | none => matchAll reach (place + 1) rest other
    | some other =>
      let (found, other) := matchAll reach (place + 1) rest other
      (c :: found, other)

/-- How much two words resemble each other, between zero and one. -/
def resemblance (a b : String) : Float :=
  let as := a.toList
  let bs := b.toList
  let reach := max as.length bs.length / 2 - 1
  let (found, other) := matchAll reach 0 as (bs.map fun c => (c, false))
  let count := found.length
  if as.isEmpty && bs.isEmpty then 1
  else if count = 0 then 0
  else
    let matched := (other.filter (·.2)).map (·.1)
    let moved := ((found.zip matched).filter fun p => p.1 != p.2).length / 2
    let share (n m : Nat) : Float := n.toFloat / m.toFloat
    (share count as.length + share count bs.length + share (count - moved) count) / 3

end PushToTalk.Text
