import PushToTalk.Text.Split
import PushToTalk.Url.Label

/-
  Host names in ASCII.

  A name is mapped character by character and brought into canonical form.  Then it is divided at
  its dots, every label is read and checked, and all of them are written down in ASCII.
-/

namespace PushToTalk.Url.Domain

/-- ASCII characters that may not stand in a name. -/
def isForbidden (c : Char) : Bool :=
  c ≤ ' ' || c == '\x7f' || "%#/:<>?@[\\]^|".toList.contains c

/-- Maps every character of a name. -/
def mapAll (cs : List Char) : Option (List Char) := (cs.mapM mapChar).map List.flatten

/-- The labels of a name, each read. -/
def labels? (cs : List Char) : Option (List (List Char)) :=
  (mapAll cs).bind fun mapped => (Text.split '.' (Text.Canonical.form mapped)).mapM Label.read

/-- Whether the labels make a name. -/
def areWellFormed (labels : List (List Char)) : Bool :=
  labels.all (fun l => l.all (fun c => !isForbidden c) && Label.isWellFormed l) &&
    (!labels.any (fun l => l.any Label.turns) || labels.all Label.readsOneWay)

/-- The labels of a name as they stand in an address. -/
def toAscii? (cs : List Char) : Option (List (List Char)) :=
  ((labels? cs).filter areWellFormed).map fun labels => labels.map Label.write

end PushToTalk.Url.Domain
