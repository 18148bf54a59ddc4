import PushToTalk.Text.Split

/-
  Paths of files and folders.

  A path keeps the spelling it was given, because answers show it, and is compared by its parts:
  `a//b`, `a/./b` and `a/b/` name one place and are the same path.  Only a leading `.` counts as
  a part of its own, and `..` is never resolved.

  The file name of a path is its last part if that is a plain name; the last dot of a name that
  is not its first character divides it into stem and extension.
-/

namespace PushToTalk

/-- A path as it was spelled: the pieces between its slashes. -/
structure Path where
  /-- What stands between the slashes, empty pieces included. -/
  pieces : List String
  deriving Repr

namespace Path

/-! ## Spelling -/

/-- Takes a text apart at its slashes. -/
def ofText (text : String) : Path where
  pieces := (Text.split '/' text.toList).map String.ofList

/-- The text of a path, as it was spelled. -/
def text (p : Path) : String :=
  String.ofList (Text.join '/' (p.pieces.map String.toList))

/-! ## Parts -/

/-- One step of a path. -/
inductive Part
  /-- The root directory, where an absolute path starts. -/
  | root
  /-- The current directory, named by a leading dot. -/
  | here
  /-- The parent directory. -/
  | up
  /-- An entry of a directory. -/
  | name (n : String)
  deriving DecidableEq, Repr

/-- A piece that names no step: nothing between two slashes, or a single dot. -/
def isIdle (piece : String) : Bool := piece == "" || piece == "."

/-- The step that a piece names, if it names one. -/
def step? (piece : String) : Option Part :=
  if isIdle piece then none else if piece == ".." then some .up else some (.name piece)

/-- The steps of a path from left to right. -/
def parts (p : Path) : List Part :=
  match p.pieces with
  | [] => []
  | first :: rest =>
    let start : List Part :=
      if first == "" then (if rest.isEmpty then [] else [.root])
      else if first == "." then [.here]
      else (step? first).toList
    start ++ rest.filterMap step?

/-- Paths with the same steps are the same, however they are spelled. -/
instance : BEq Path := ⟨fun p q => p.parts == q.parts⟩

/-- Two paths are the same if they take the same steps. -/
theorem beq_iff {p q : Path} : (p == q) = true ↔ p.parts = q.parts := by
  show (p.parts == q.parts) = true ↔ _
  exact beq_iff_eq

/-- Every path is the same as itself. -/
theorem beq_refl (p : Path) : (p == p) = true := beq_iff.2 rfl

/-- Whether two paths are the same can be asked from either side. -/
theorem beq_comm {p q : Path} : (p == q) = (q == p) := by
  rw [Bool.eq_iff_iff, beq_iff, beq_iff]
  exact eq_comm

/-! ## Order -/

/-- The place of a step's kind in the order. -/
def Part.rank : Part → Nat
  | .root => 0
  | .here => 1
  | .up => 2
  | .name _ => 3

/-- Steps are ordered by kind, names by their characters. -/
def Part.compare : Part → Part → Ordering
  | .name m, .name n => compareOfLessAndEq m n
  | a, b => compareOfLessAndEq a.rank b.rank

/-- Lists of steps are ordered like words in a dictionary. -/
def compareParts : List Part → List Part → Ordering
  | [], [] => .eq
  | [], _ :: _ => .lt
  | _ :: _, [] => .gt
  | a :: as, b :: bs => (a.compare b).then (compareParts as bs)

/-- The order of paths, step by step. -/
def compare (p q : Path) : Ordering := compareParts p.parts q.parts

/-- Paths in ascending order; equal ones keep their order. -/
def sort (ps : List Path) : List Path :=
  ps.mergeSort fun p q => (p.compare q).isLE

/-! ## Names -/

/-- The last step, if it is a plain name. -/
def fileName? (p : Path) : Option String :=
  match p.parts.getLast? with
  | some (.name n) => some n
  | _ => none

/-- The file name without its extension. -/
def stem? (p : Path) : Option String :=
  p.fileName?.map fun n => String.ofList (Text.divideLast '.' n.toList).1

/-- The extension of the file name. -/
def extension? (p : Path) : Option String :=
  p.fileName?.bind fun n => (Text.divideLast '.' n.toList).2.map String.ofList

/-! ## Neighbours -/

/-- The entry `name` of the directory `p`. -/
def child (p : Path) (name : String) : Path where
  pieces :=
    match p.pieces.getLast? with
    | some "" => p.pieces.dropLast ++ [name]
    | _ => p.pieces ++ [name]

/-- Removes the pieces at the end that name no step. -/
def trimEnd (pieces : List String) : List String :=
  (pieces.reverse.dropWhile isIdle).reverse

/-- The path without its last step, spelled as it was up to there. -/
def parent? (p : Path) : Option Path :=
  match p.pieces with
  | [] => none
  | first :: rest =>
    match trimEnd rest with
    | [] =>
      if first == "" then none
      else some ⟨[""]⟩
    | kept =>
      match trimEnd kept.dropLast with
      | [] => some ⟨if first == "" then ["", ""] else [first]⟩
      | front => some ⟨first :: front⟩

/-- The path of `p` from the directory `base`; a path from the root is a place of its own. -/
def under (p base : Path) : Path :=
  match p.pieces with
  | "" :: _ :: _ => p
  | _ => ⟨base.pieces ++ p.pieces⟩

/-- The path with `suffix` behind its file name; without a file name nothing changes. -/
def withSuffix (p : Path) (suffix : String) : Path :=
  match p.fileName? with
  | some n => ⟨(trimEnd p.pieces).dropLast ++ [n ++ suffix]⟩
  | none => p

/-! ## From one place to another -/

/-- The spelling of a step. -/
def Part.text : Part → String
  | .root => ""
  | .here => "."
  | .up => ".."
  | .name n => n

/-- The steps from one place to another, both reached from the root. -/
def stepsBetween : List Part → List Part → List Part
  | a :: as, b :: bs =>
    if a = b then stepsBetween as bs else (a :: as).map (fun _ => .up) ++ b :: bs
  | as, [] => as.map fun _ => .up
  | [], bs => bs

/-- The path that leads from the directory `base` to `p`. -/
def relativeTo (p base : Path) : Path := ⟨(stepsBetween base.parts p.parts).map Part.text⟩

end Path

end PushToTalk
