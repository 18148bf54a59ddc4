import PushToTalk.Url.Host
import PushToTalk.Url.Segments

/-
  Base addresses: where the backend is.

  Host and port are put into the text `http://HOST:PORT/`, and that text is read as an address.
  So a host may bring along a user, a port, a path, a query or a fragment of its own.  All of them
  stay, except the path: every request has its own.
-/

namespace PushToTalk.Url

/-- A base address. -/
structure Base where
  /-- User and password as they are spelled, with the at sign; empty if there are none. -/
  user : List Char
  host : Host
  /-- The port, unless it is the standard one. -/
  port : Option Nat
  /-- The query as it is spelled. -/
  query : Option (List Char)
  /-- The fragment as it is spelled. -/
  fragment : Option (List Char)
  deriving DecidableEq, Repr

namespace Base

/-! ## Spellings -/

/-- Escapes the given ASCII characters, the controls, and everything beyond ASCII. -/
def escapeAll (marks : String) (cs : List Char) : List Char :=
  encode (fun b => b < 32 || b == 127 || marks.toList.contains (asciiChar b)) (Text.utf8 cs)

/-- The spelling of a user or a password. -/
def writeUser : List Char → List Char := escapeAll " \"#/:;<=>?@[\\]^\x60\x7b|\x7d"

/-- The spelling of a query. -/
def writeQuery : List Char → List Char := escapeAll " \"#'<>"

/-- The spelling of a fragment. -/
def writeFragment : List Char → List Char := escapeAll " \"<>\x60"

/-! ## Parts -/

/-- Whether a character ends the part of an address that says where. -/
def endsAuthority (c : Char) : Bool := c == '/' || c == '\\' || c == '?' || c == '#'

/-- Divides the front of an address at its last at sign. -/
def splitUser (cs : List Char) : Option (List Char) × List Char :=
  let back := cs.reverse.takeWhile (· != '@')
  if back.length == cs.length then (none, cs)
  else (some (cs.reverse.drop (back.length + 1)).reverse, back.reverse)

/-- User and password as they are spelled; an empty password leaves no trace. -/
def userText : Option (List Char) → List Char
  | none => []
  | some cs =>
    let name := cs.takeWhile (· != ':')
    let password := cs.drop (name.length + 1)
    let spelled :=
      writeUser name ++ (if password.isEmpty then [] else ':' :: writeUser password)
    if spelled.isEmpty then [] else spelled ++ ['@']

/-- Divides a text at the first colon outside square brackets. -/
def splitPort (inside : Bool) : List Char → List Char × Option (List Char)
  | [] => ([], none)
  | c :: rest =>
    if c == ':' && !inside then ([], some rest)
    else
      let (host, port) := splitPort (c == '[' || inside && c != ']') rest
      (c :: host, port)

/-- The port of web pages. -/
def standardPort : Nat := 80

/-- Reads a port; one that is empty or the standard one need not be written. -/
def readPort : Option (List Char) → Except Flaw (Option Nat)
  | none | some [] => .ok none
  | some ds =>
    let n := Text.Numeral.value ds
    if !ds.all Text.Numeral.isDigit || 65535 < n then .error .port
    else .ok (if n == standardPort then none else some n)

/-- Reads what comes after the two slashes. -/
def ofRest (cs : List Char) : Except Flaw Base := do
  let (user, place) := splitUser (cs.takeWhile fun c => !endsAuthority c)
  let (host, port) := splitPort false place
  let host ← Host.parse host
  let port ← readPort port
  let after := (cs.dropWhile fun c => !endsAuthority c).dropWhile fun c => c != '?' && c != '#'
  let fragment := (after.dropWhile (· != '#')).tail?
  let query := match after with
    | '?' :: q => some (q.takeWhile (· != '#'))
    | _ => none
  .ok ⟨userText user, host, port, query.map writeQuery, fragment.map writeFragment⟩

/-- The text that a base address is read from, after the scheme. -/
def rest (host : String) (port : UInt16) : List Char :=
  host.toList ++ ':' :: (Text.Numeral.digits port.toNat ++ ['/'])

/-- The base address of a host and a port. Slashes and backslashes in front do not count. -/
def parse (host : String) (port : UInt16) : Except Flaw Base :=
  ofRest (((rest host port).filter fun c => !Segments.isDropped c).dropWhile fun c =>
    c == '/' || c == '\\')

/-- User, host and port as an address has them. -/
def authority (b : Base) : List Char :=
  b.user ++ b.host.text ++ (b.port.elim [] fun p => ':' :: Text.Numeral.digits p)

end Base

end PushToTalk.Url
