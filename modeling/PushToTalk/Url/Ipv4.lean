import PushToTalk.Text.Numeral
import PushToTalk.Text.Ranges

/-
  Addresses of four bytes, in every spelling that an address line takes.

  An address has one to four numbers with dots between them; the last number fills all bytes
  that are left.  A number is hexadecimal after `0x`, octal after a zero, decimal otherwise.
-/

namespace PushToTalk.Url

/-- An address of four bytes. -/
abbrev Ipv4 := UInt32

namespace Ipv4

/-- The value of octal digits. -/
def octal? (ds : List Char) : Option Nat :=
  if ds.all fun c => '0' ≤ c && c ≤ '7' then
    some (ds.foldl (fun n c => 8 * n + Text.Numeral.digitValue c) 0)
  else none

/-- The value of hexadecimal digits. -/
def hex? (ds : List Char) : Option Nat :=
  ds.foldlM (fun n c => (Text.hexDigit? c).map (16 * n + ·)) 0

/-- The value of a number in an address. -/
def number? : List Char → Option Nat
  | [] => none
  | '0' :: 'x' :: ds => hex? ds
  | '0' :: d :: ds => octal? (d :: ds)
  | ds => if ds.all Text.Numeral.isDigit then some (Text.Numeral.value ds) else none

/-- The labels of a name without the empty one after a dot at the end. -/
def dropRoot (labels : List (List Char)) : List (List Char) :=
  match labels.getLast? with
  | some [] => labels.dropLast
  | _ => labels

/-- Whether a name ends in a number, so that it can only be an address. -/
def isAddress (labels : List (List Char)) : Bool :=
  match (dropRoot labels).getLast? with
  | some label => !label.isEmpty && label.all Text.Numeral.isDigit || (number? label).isSome
  | none => false

/-- The address that some numbers make: one byte each, and the last fills what is left. -/
def ofNumbers? (numbers : List Nat) : Option Ipv4 :=
  match numbers.getLast? with
  | none => none
  | some last =>
    let front := numbers.dropLast
    if 4 < numbers.length || front.any (255 < ·) || Nat.pow 256 (4 - front.length) ≤ last then none
    else
      let high := front.foldl (fun n b => 256 * n + b) 0
      some (UInt32.ofNat (high * Nat.pow 256 (4 - front.length) + last))

/-- The address that a name spells. -/
def parse? (labels : List (List Char)) : Option Ipv4 :=
  ((dropRoot labels).mapM number?).bind ofNumbers?

/-- The four bytes of an address. -/
def octets (a : Ipv4) : List Nat :=
  [a.toNat / Nat.pow 256 3, a.toNat / Nat.pow 256 2 % 256, a.toNat / 256 % 256, a.toNat % 256]

/-- The spelling of an address: four decimal numbers. -/
def text (a : Ipv4) : List Char := ['.'].intercalate (a.octets.map Text.Numeral.digits)

end Ipv4

end PushToTalk.Url
