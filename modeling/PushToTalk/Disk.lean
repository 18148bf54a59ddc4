import PushToTalk.Path
import PushToTalk.Table

/-
  The disk: directories, files and symbolic links, found by walking along paths.

  A place on the disk is the list of names that leads to it from the root.  The disk maps places
  to what is there; the root itself is always a directory.  Walking along a path follows links,
  at most `linkLimit` of them.

  A relative path starts at the root: the root is the directory in which everything happens.
-/

namespace PushToTalk

/-- The bytes of a file. -/
abbrev Bytes := List UInt8

/-- Bytes that tell their places apart: byte `i` is `i mod 251`. -/
def Bytes.pattern (size : Nat) : Bytes :=
  (List.range size).map fun i => UInt8.ofNat (i % 251)

/-- A place on the disk: the names that lead to it from the root. -/
abbrev Place := List String

namespace Disk

/-- What stands at a place. -/
inductive Node
  /-- A directory. -/
  | directory
  /-- A regular file with its bytes. -/
  | file (bytes : Bytes)
  /-- A symbolic link with the path that it stands for. -/
  | link (target : Path)
  deriving Repr

/-- What a place holds, as a directory listing tells it. -/
inductive Kind
  | directory
  | file
  | link
  deriving DecidableEq, Repr

/-- The kind of a node. -/
def Node.kind : Node → Kind
  | .directory => .directory
  | .file _ => .file
  | .link _ => .link

/-- Why an operation on the disk failed. -/
inductive Trouble
  /-- Nothing is there. -/
  | notFound
  /-- A file stands where a directory is needed. -/
  | notDirectory
  /-- A directory stands where a file is needed. -/
  | isDirectory
  /-- The directory still has entries. -/
  | notEmpty
  /-- The links lead in circles. -/
  | tooManyLinks
  /-- The path ends in a dot, which is no entry that could be removed. -/
  | noEntry
  deriving DecidableEq, Repr

end Disk

/-- Everything below the root directory. -/
structure Disk where
  /-- What stands at each place that is taken. -/
  nodes : Table Place Disk.Node
  deriving Repr

namespace Disk

/-- The disk with nothing below its root. -/
def blank : Disk := ⟨.empty⟩

instance : Inhabited Disk := ⟨blank⟩

/-- Links followed on one walk before it is given up. -/
def linkLimit : Nat := 40

/-- What stands at a place; the root is a directory. -/
def at? (d : Disk) (place : Place) : Option Node :=
  if place.isEmpty then some .directory else d.nodes.get? place

/-- Whether a place is a directory. -/
def isDirectoryAt (d : Disk) (place : Place) : Bool :=
  match d.at? place with
  | some .directory => true
  | _ => false

/-! ## Walking -/

/-- Walks from `place` along the pieces of a path.  Every piece needs a directory to start from;
a name at the very end may be missing, and if it is a link it is followed only when
`followLast` says so. -/
def walk (d : Disk) (followLast : Bool) (links : Nat) (place : Place) :
    List String → Except Trouble Place
  | [] => .ok place
  | piece :: rest =>
    if !d.isDirectoryAt place then .error .notDirectory
    else if Path.isIdle piece then d.walk followLast links place rest
    else if piece == ".." then d.walk followLast links place.dropLast rest
    else match d.at? (place ++ [piece]) with
      | none => if rest.isEmpty then .ok (place ++ [piece]) else .error .notFound
      | some (.link target) =>
        if rest.isEmpty && !followLast then .ok (place ++ [piece])
        else match links with
          | 0 => .error .tooManyLinks
          | links + 1 =>
            let start := match target.pieces with
              | "" :: _ :: _ => []
              | _ => place
            d.walk followLast links start (target.pieces ++ rest)
      | some _ => d.walk followLast links (place ++ [piece]) rest
termination_by pieces => (links, pieces.length)

/-- The place a path leads to, links followed to the end. -/
def resolve (d : Disk) (p : Path) : Except Trouble Place := d.walk true linkLimit [] p.pieces

/-- The place a path leads to, a link at its end left alone. -/
def resolveEntry (d : Disk) (p : Path) : Except Trouble Place := d.walk false linkLimit [] p.pieces

/-- What a path leads to. -/
def find (d : Disk) (p : Path) : Except Trouble Node := do
  let place ← d.resolve p
  match d.at? place with
  | some node => .ok node
  | none => .error .notFound

/-! ## Looking -/

/-- Whether something is there, or why that cannot be said. -/
def tryExists (d : Disk) (p : Path) : Except Trouble Bool :=
  match d.find p with
  | .ok _ => .ok true
  | .error .notFound => .ok false
  | .error trouble => .error trouble

/-- The entries directly inside a place. -/
def entriesAt (d : Disk) (place : Place) : List (String × Node) :=
  d.nodes.entries.filterMap fun e =>
    match e.1.getLast? with
    | some name => if e.1.dropLast == place then some (name, e.2) else none
    | none => none

/-- The entries of a directory, links among them not followed. -/
def list (d : Disk) (p : Path) : Except Trouble (List (String × Kind)) := do
  let place ← d.resolve p
  match d.at? place with
  | none => .error .notFound
  | some .directory => .ok ((d.entriesAt place).map fun e => (e.1, e.2.kind))
  | some _ => .error .notDirectory

/-- The bytes of a file. -/
def read (d : Disk) (p : Path) : Except Trouble Bytes := do
  match ← d.find p with
  | .file bytes => .ok bytes
  | .directory => .error .isDirectory
  | .link _ => .error .tooManyLinks

/-! ## Changing -/

/-- Sets what stands at a place. -/
def set (d : Disk) (place : Place) (node : Node) : Disk := ⟨d.nodes.put place node⟩

/-- Removes what stands at a place. -/
def clear (d : Disk) (place : Place) : Disk := ⟨d.nodes.erase place⟩

/-- Removes a place and everything below it. -/
def clearBelow (d : Disk) (place : Place) : Disk :=
  ⟨⟨d.nodes.entries.filter fun e => !(place.isPrefixOf e.1)⟩⟩

/-- Removes everything below a place, but not what stands there itself. -/
def clearInside (d : Disk) (place : Place) : Disk :=
  ⟨⟨d.nodes.entries.filter fun e => !(place.isPrefixOf e.1 && e.1 != place)⟩⟩

/-- Walks along the pieces and makes every directory that is missing on the way.  The first `fixed`
pieces come from links, and a link does not lead to what is missing: nothing is made there. -/
def makeAlong (links fixed : Nat) (d : Disk) (place : Place) : List String → Except Trouble Disk
  | [] => if d.isDirectoryAt place then .ok d else .error .notDirectory
  | piece :: rest =>
    if !d.isDirectoryAt place then .error .notDirectory
    else if Path.isIdle piece then makeAlong links (fixed - 1) d place rest
    else if piece == ".." then makeAlong links (fixed - 1) d place.dropLast rest
    else match d.at? (place ++ [piece]) with
      | none =>
        if 0 < fixed then .error .notFound
        else makeAlong links 0 (d.set (place ++ [piece]) .directory) (place ++ [piece]) rest
      | some (.link target) =>
        match links with
        | 0 => .error .tooManyLinks
        | links + 1 =>
          let start := match target.pieces with
            | "" :: _ :: _ => []
            | _ => place
          makeAlong links (target.pieces.length + (fixed - 1)) d start (target.pieces ++ rest)
      | some _ => makeAlong links (fixed - 1) d (place ++ [piece]) rest
termination_by pieces => (links, pieces.length)

/-- Makes a directory and whatever is missing above it. -/
def makeDirectories (d : Disk) (p : Path) : Except Trouble Disk :=
  makeAlong linkLimit 0 d [] p.pieces

/-- Writes a file, replacing one that is there. -/
def write (d : Disk) (p : Path) (bytes : Bytes) : Except Trouble Disk := do
  let place ← d.resolve p
  match d.at? place with
  | some .directory => .error .isDirectory
  | _ => .ok (d.set place (.file bytes))

/-- Makes an entry of a directory; only a file may take the place of a file. -/
def make (d : Disk) (p : Path) (node : Node) : Except Trouble Disk := do
  let place ← d.resolveEntry p
  match d.at? place, node with
  | none, _ => .ok (d.set place node)
  | some (.file _), .file _ => .ok (d.set place node)
  | some _, _ => .error .notEmpty

/-- Makes a symbolic link. -/
def link (d : Disk) (p : Path) (target : Path) : Except Trouble Disk := do
  let place ← d.resolveEntry p
  match d.at? place with
  | some _ => .error .notEmpty
  | none => .ok (d.set place (.link target))

/-- Removes a file or a link. -/
def removeFile (d : Disk) (p : Path) : Except Trouble Disk := do
  let place ← d.resolveEntry p
  match d.at? place with
  | none => .error .notFound
  | some .directory => .error .isDirectory
  | some _ => .ok (d.clear place)

/-- Removes a directory without entries.  Slashes at the end of the path do not count, so a link
is not followed even with a slash behind it. -/
def removeDirectory (d : Disk) (p : Path) : Except Trouble Disk := do
  let pieces := (p.pieces.reverse.dropWhile (· == "")).reverse
  let place ← d.walk false linkLimit [] pieces
  if pieces.getLast? == some "." then .error .noEntry
  else match d.at? place with
    | none => .error .notFound
    | some .directory =>
      if (d.entriesAt place).isEmpty then .ok (d.clear place) else .error .notEmpty
    | some _ => .error .notDirectory

/-- Removes a directory with everything below it, or a link but not what it stands for.  What is
in a directory goes first, and then the directory is looked for once more: one that its own path
leads through cannot be found any more, and stays behind empty. -/
def removeTree (d : Disk) (p : Path) : Except Trouble Disk := do
  let place ← d.resolveEntry p
  match d.at? place with
  | none => .error .notFound
  | some (.file _) => .error .notDirectory
  | some (.link _) => .ok (d.clear place)
  | some .directory =>
    match (d.clearInside place).resolveEntry p with
    | .ok _ => .ok (d.clearBelow place)
    | .error _ => .ok (d.clearInside place)

end Disk

end PushToTalk
