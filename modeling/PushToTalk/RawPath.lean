import PushToTalk.Path
import PushToTalk.Text.Quoted

/-
  Paths of files as the system has them.

  A directory can hold names that are no texts.  Such a path is a run of bytes with slashes between
  its names, and it is taken apart like any other path: the file name is the last name that leads
  further, unless it leads up again, and its last dot divides it.  Everything that the relay asks of
  a path holds for all of them; only whoever needs the name as a text may fail.
-/

namespace PushToTalk

/-- A path as it was spelled, in bytes: the pieces between its slashes. -/
structure RawPath where
  /-- What stands between the slashes, empty pieces included. -/
  pieces : List (List UInt8)
  deriving DecidableEq, Repr

namespace RawPath

/-! ## Spelling -/

/-- Takes bytes apart at their slashes. -/
def ofBytes (bytes : List UInt8) : RawPath := ⟨Text.split '/'.toUInt8 bytes⟩

/-- The bytes of a path, as it was spelled. -/
def bytes (p : RawPath) : List UInt8 := Text.join '/'.toUInt8 p.pieces

/-- A path between double quotes, as messages show it. -/
def quoted (p : RawPath) : String := Text.quotedBytes p.bytes

/-! ## Names -/

/-- A piece that leads nowhere: nothing between two slashes, or a single dot. -/
def isIdle (piece : List UInt8) : Bool := piece == [] || piece == ['.'.toUInt8]

/-- The last piece that leads somewhere, unless it leads to the parent directory. -/
def fileName? (p : RawPath) : Option (List UInt8) :=
  (p.pieces.filter (!isIdle ·)).getLast?.filter (· != ['.'.toUInt8, '.'.toUInt8])

/-- The file name without its extension. -/
def stem? (p : RawPath) : Option (List UInt8) :=
  p.fileName?.map fun n => (Text.divideLast '.'.toUInt8 n).1

/-- The stem as a text, if the path has one and it is a text. -/
def stemText? (p : RawPath) : Option String := p.stem?.bind Text.ofUtf8?

/-! ## Neighbours -/

/-- The entry `name` of the directory `p`. -/
def child (p : RawPath) (name : List UInt8) : RawPath where
  pieces :=
    match p.pieces.getLast? with
    | some [] => p.pieces.dropLast ++ [name]
    | _ => p.pieces ++ [name]

end RawPath

/-- The bytes of a path whose names are texts. -/
def Path.raw (p : Path) : RawPath := ⟨p.pieces.map fun piece => Text.utf8 piece.toList⟩

end PushToTalk
