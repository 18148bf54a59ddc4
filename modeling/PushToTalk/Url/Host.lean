import PushToTalk.Url.Domain
import PushToTalk.Url.Ipv4
import PushToTalk.Url.Ipv6
import PushToTalk.Url.Percent

/-
  Hosts: names and numeric addresses.

  A text in square brackets is an address of eight groups.  Of any other text the percent escapes
  are undone and the labels are written in ASCII; if it ends in a number it is an address of four
  bytes, and a name otherwise.
-/

namespace PushToTalk.Url

/-- Why a text is no address. -/
inductive Flaw
  | emptyHost
  | port
  | ipv4
  | ipv6
  | name
  deriving DecidableEq, Repr

/-- The wording of a flaw. -/
def Flaw.message : Flaw → String
  | .emptyHost => "empty host"
  | .port => "invalid port number"
  | .ipv4 => "invalid IPv4 address"
  | .ipv6 => "invalid IPv6 address"
  | .name => "invalid international domain name"

/-- A host. -/
inductive Host
  /-- A name, as the ASCII labels between its dots. -/
  | name (labels : List (List Char))
  | ipv4 (address : Ipv4)
  | ipv6 (address : Ipv6)
  deriving DecidableEq, Repr

namespace Host

/-- The host that the labels of a name make. -/
def ofLabels (labels : List (List Char)) : Except Flaw Host :=
  if labels.all List.isEmpty && labels.length ≤ 1 then .error .emptyHost
  else if Ipv4.isAddress labels then
    match Ipv4.parse? labels with
    | some a => .ok (.ipv4 a)
    | none => .error .ipv4
  else .ok (.name labels)

/-- The host that a text between square brackets spells; `cs` begins after the first. -/
def ofBracketed (cs : List Char) : Except Flaw Host :=
  match cs.getLast?, Ipv6.parse? cs.dropLast with
  | some ']', some a => .ok (.ipv6 a)
  | _, _ => .error .ipv6

/-- The host that a text spells. -/
def parse : List Char → Except Flaw Host
  | [] => .error .emptyHost
  | '[' :: cs => ofBracketed cs
  | cs =>
    match (decodeText? cs).bind fun t => Domain.toAscii? t.toList with
    | some labels => ofLabels labels
    | none => .error .name

/-- The spelling of a host in an address. -/
def text : Host → List Char
  | .name labels => Text.join '.' labels
  | .ipv4 a => a.text
  | .ipv6 a => '[' :: (a.text ++ [']'])

end Host

end PushToTalk.Url
