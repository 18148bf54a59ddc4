import PushToTalk.Disk

/-
  The recorder of the voice host.

  It is told to start into a folder and to stop, in turn.  Starting makes the folder; a recorder
  may write some files there at once.  One that closes its files as it stops reports completion
  right then; any other reports it later.
-/

namespace PushToTalk

/-- What a recorder is told. -/
inductive Toggle
  /-- Record into the folder. -/
  | start (folder : Path)
  /-- Stop recording. -/
  | stop
  deriving Repr

/-- The folder of a start. -/
def Toggle.folder? : Toggle → Option Path
  | .start folder => some folder
  | .stop => none

/-- How a recorder behaves. -/
structure Recorder where
  /-- The files that it writes as soon as it starts. -/
  drops : List String
  /-- Whether it reports completion as soon as it is told to stop. -/
  notifiesOnStop : Bool
  deriving Repr

namespace Recorder

/-- A recorder that only makes the folder and leaves the files to others. -/
def folderOnly (notifiesOnStop : Bool) : Recorder := ⟨[], notifiesOnStop⟩

/-- The size of the files that a recorder writes at once. -/
def dropSize : Nat := 1000

/-- Writes a file, or leaves the disk as it is when that fails. -/
def drop (folder : Path) (d : Disk) (name : String) : Disk :=
  match d.write (folder.child name) (Bytes.pattern dropSize) with
  | .ok d' => d'
  | .error _ => d

/-- The disk after a toggle. -/
def onDisk (r : Recorder) (d : Disk) : Toggle → Disk
  | .start folder =>
    let d := match d.makeDirectories folder with
      | .ok d' => d'
      | .error _ => d
    r.drops.foldl (drop folder) d
  | .stop => d

/-- Whether completion is reported within a toggle. -/
def notifies (r : Recorder) : Toggle → Bool
  | .start _ => false
  | .stop => r.notifiesOnStop

end Recorder

end PushToTalk
