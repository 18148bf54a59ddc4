import PushToTalk.Request
import PushToTalk.Settings
import PushToTalk.Url.Base
import PushToTalk.Url.Form

/-
  The addresses of requests.

  A request's address is the base address of the backend with the segments of the request as its
  path.  The query of the request comes after the query of the base, if the base has one.
-/

namespace PushToTalk.Url

/-- An address. -/
structure Address where
  base : Base
  /-- The segments of the path, unescaped. -/
  segments : List String
  /-- The query as it is spelled. -/
  query : Option (List Char)
  deriving DecidableEq, Repr

namespace Address

/-- The query of a request behind the query of a base address. -/
def joinQuery (base : Option (List Char)) (pairs : List (String × String)) : Option (List Char) :=
  if pairs.isEmpty then base
  else
    match base with
    | none | some [] => some (Form.write pairs)
    | some q => some (q ++ '&' :: Form.write pairs)

/-- The address of a request below a base address. -/
def ofRequest (b : Base) (r : Request) : Address := ⟨b, r.segments, joinQuery b.query r.query⟩

/-- The scheme of every address, with its slashes. -/
def scheme : List Char := "http://".toList

/-- The part of an address after the user: where nothing is secret. -/
def publicPart (a : Address) : List Char :=
  { a.base with user := [] }.authority ++ Segments.path a.segments ++
    a.query.elim [] ('?' :: ·) ++ a.base.fragment.elim [] ('#' :: ·)

/-- The spelling of an address. -/
def text (a : Address) : String := String.ofList (scheme ++ a.base.user ++ a.publicPart)

/-- The longest address that can be requested, in bytes and without its user. -/
def longest : Nat := 65534

/-- Whether an address can be requested: its host has no quotes or braces, and it is not too
long. -/
def isUsable (a : Address) : Bool :=
  a.base.host.text.all (fun c => !"\"\x60\x7b\x7d".toList.contains c) &&
    (scheme ++ a.publicPart).length ≤ longest

end Address

end PushToTalk.Url
