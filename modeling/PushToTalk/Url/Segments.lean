import PushToTalk.Text.Split
import PushToTalk.Url.Percent

/-
  The paths of addresses.

  A path is written as its pieces with a slash in front of each; the empty path is a single empty
  piece.  Segments are put at its end one after the other.  A segment that is a single or a double
  dot is left out, tabs and line breaks inside a segment are left out, and whatever has a meaning
  in an address is escaped.
-/

namespace PushToTalk.Url.Segments

/-! ## Writing -/

/-- Whether a character is left out of an address. -/
def isDropped (c : Char) : Bool := c == '\t' || c == '\n' || c == '\r'

/-- Whether a byte is escaped in a path: controls, blanks, and what has a meaning. -/
def isEscaped (b : UInt8) : Bool :=
  b ≤ 32 || b == 127 || "\"#%/<>?\\\x60\x7b\x7d".toList.contains (asciiChar b)

/-- The spelling of a segment. -/
def write (segment : List Char) : List Char :=
  encode isEscaped (Text.utf8 (segment.filter fun c => !isDropped c))

/-- A letter with a colon or a bar, which stands for a disk. -/
def isDisk : List Char → Bool
  | [letter, mark] => letter.isAlpha && (mark == ':' || mark == '|')
  | _ => false

/-- The pieces of a path after a step upwards; a disk stays. -/
def goUp (pieces : List (List Char)) : List (List Char) :=
  match pieces.getLast? with
  | none => [[]]
  | some last => if isDisk last then pieces ++ [[]] else pieces.dropLast ++ [[]]

/-- Puts a spelled segment at the end of a path. -/
def put (pieces : List (List Char)) (spelled : List Char) : List (List Char) :=
  let front := if pieces == [[]] then [] else pieces
  if spelled == "..".toList then goUp front
  else if spelled == ".".toList then front ++ [[]]
  else front ++ [spelled]

/-- Whether a segment is left out. -/
def isSkipped (segment : String) : Bool := segment == "." || segment == ".."

/-- The pieces of the path that segments make. -/
def pieces (segments : List String) : List (List Char) :=
  (segments.filter fun s => !isSkipped s).foldl (fun ps s => put ps (write s.toList)) [[]]

/-- The path that segments make. -/
def path (segments : List String) : List Char := '/' :: Text.join '/' (pieces segments)

/-! ## Reading -/

/-- The segments that a path spells. -/
def read? : List Char → Option (List String)
  | '/' :: rest => (Text.split '/' rest).mapM decodeText?
  | _ => none

end PushToTalk.Url.Segments
