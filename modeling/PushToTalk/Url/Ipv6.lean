import PushToTalk.Text.Numeral
import PushToTalk.Text.Ranges
import PushToTalk.Text.Split

/-
  Addresses of eight groups of sixteen bits.

  A group is one to four hexadecimal digits.  Two colons in a row stand for as many zero groups
  as are missing, at least one; the last two groups may be spelled as four decimal numbers.  When
  an address is written, the first of the longest runs of two or more zero groups is left out.
-/

namespace PushToTalk.Url

/-- An address of eight groups. -/
structure Ipv6 where
  groups : List UInt16
  deriving DecidableEq, Repr

namespace Ipv6

/-! ## Reading -/

/-- The value of one group. -/
def group? (ds : List Char) : Option Nat :=
  if ds.isEmpty || 4 < ds.length then none
  else ds.foldlM (fun n c => (Text.hexDigit? c).map (16 * n + ·)) 0

/-- One decimal number at the end of an address. -/
def octet? (ds : List Char) : Option Nat :=
  let n := Text.Numeral.value ds
  if ds == Text.Numeral.digits n && n < 256 then some n else none

/-- Two groups spelled as four decimal numbers. -/
def dotted? (cs : List Char) : Option (List Nat) :=
  match (Text.split '.' cs).mapM octet? with
  | some [a, b, c, d] => some [256 * a + b, 256 * c + d]
  | _ => none

/-- Groups with colons between them, at least one. -/
def groupsOf? : List (List Char) → Option (List Nat)
  | [] => some []
  | [last] => if last.contains '.' then dotted? last else (group? last).map ([·])
  | first :: rest =>
    match group? first, groupsOf? rest with
    | some g, some gs => some (g :: gs)
    | _, _ => none

/-- Groups with colons between them, or nothing at all. -/
def groups? (cs : List Char) : Option (List Nat) :=
  if cs.isEmpty then some [] else groupsOf? (Text.split ':' cs)

/-- Divides a text at the first two colons in a row. -/
def splitGap : List Char → Option (List Char × List Char)
  | ':' :: ':' :: rest => some ([], rest)
  | c :: rest => (splitGap rest).map fun (front, back) => (c :: front, back)
  | [] => none

/-- The groups of an address. -/
def parseGroups? (cs : List Char) : Option (List Nat) :=
  match splitGap cs with
  | none => (groups? cs).filter (·.length == 8)
  | some (front, back) =>
    if front.contains '.' then none
    else
      match groups? front, groups? back with
      | some fs, some bs =>
        if fs.length + bs.length < 8 then
          some (fs ++ List.replicate (8 - fs.length - bs.length) 0 ++ bs)
        else none
      | _, _ => none

/-- The address that a text spells. -/
def parse? (cs : List Char) : Option Ipv6 :=
  (parseGroups? cs).map fun gs => ⟨gs.map UInt16.ofNat⟩

/-! ## Writing -/

/-- The number of zero groups at the front. -/
def zeros (gs : List UInt16) : Nat := (gs.takeWhile (· == 0)).length

/-- The place and the length of the first of the longest runs of zero groups, counted from place
`at_`. -/
def longestGap (at_ : Nat) : List UInt16 → Nat × Nat
  | [] => (at_, 0)
  | g :: gs =>
    let later := longestGap (at_ + 1) gs
    if later.2 ≤ zeros (g :: gs) then (at_, zeros (g :: gs)) else later

/-- The spelling of a group. -/
def groupText (g : UInt16) : List Char := Text.hexDigits g.toNat

/-- Groups with colons between them. -/
def groupsText (gs : List UInt16) : List Char := Text.join ':' (gs.map groupText)

/-- The spelling of an address. -/
def text (a : Ipv6) : List Char :=
  let (place, length) := longestGap 0 a.groups
  if length < 2 then groupsText a.groups
  else groupsText (a.groups.take place) ++ ':' :: ':' :: groupsText (a.groups.drop (place + length))

end Ipv6

end PushToTalk.Url
