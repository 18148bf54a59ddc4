import PushToTalk.Disk
import PushToTalk.Text.Numeral

/-
  Session folders: which there are, what state each is in, and which one is being recorded into.

  A folder is registered when the recorder is told to record into it, and dropped from the
  registry by the first scan after all its files have been delivered.  A scan hands out every
  folder that is neither being recorded into nor being processed by an earlier scan.
-/

namespace PushToTalk

/-- The life of a session folder. -/
inductive FolderState
  /-- Not scanned yet. -/
  | recording
  /-- Its files are with an upload job. -/
  | processing
  /-- A job is done with it, and something was left over. -/
  | finishedUnsuccessfully
  /-- A job is done with it, and it is gone from the disk. -/
  | finishedSuccessfully
  deriving DecidableEq, Repr

/-- The name of a state. -/
def FolderState.name : FolderState → String
  | .recording => "recording"
  | .processing => "processing"
  | .finishedUnsuccessfully => "finished_unsuccessfully"
  | .finishedSuccessfully => "finished_successfully"

/-- A registered folder. -/
structure Folder where
  path : Path
  state : FolderState
  deriving Repr

/-- Every session folder whose files are not all delivered. -/
structure Registry where
  /-- In the order in which they were registered. -/
  folders : List Folder
  /-- The folder that the recorder writes into right now. -/
  active : Option Path
  deriving Repr

namespace Registry

/-- No folders. -/
def empty : Registry := ⟨[], none⟩

/-- Registers a folder that is about to be recorded into. -/
def beginRecording (r : Registry) (path : Path) : Registry :=
  ⟨r.folders ++ [⟨path, .recording⟩], some path⟩

/-- The recorder has been told to stop. -/
def endRecording (r : Registry) : Registry := { r with active := none }

/-- Whether a path is the folder being recorded into. -/
def isActive (r : Registry) (path : Path) : Bool :=
  match r.active with
  | some a => a == path
  | none => false

/-- Whether a scan hands out a folder. -/
def isEligible (r : Registry) (f : Folder) : Bool :=
  f.state != .finishedSuccessfully && f.state != .processing && !r.isActive f.path

/-- The folders that a scan hands out, in order. -/
def eligible (r : Registry) : List Path := (r.folders.filter r.isEligible).map (·.path)

/-- The registry after a scan: delivered folders are dropped, those handed out are being
processed. -/
def afterScan (r : Registry) : Registry where
  folders := (r.folders.filter fun f => f.state != .finishedSuccessfully).map fun f =>
    if r.isEligible f then { f with state := .processing } else f
  active := r.active

/-- The state of the first folder registered under a path. -/
def stateOf? (r : Registry) (path : Path) : Option FolderState :=
  (r.folders.find? fun f => f.path == path).map (·.state)

/-- Sets the state of the first folder registered under a path. -/
def setState (r : Registry) (path : Path) (state : FolderState) : Registry :=
  { r with folders := go r.folders }
where
  go : List Folder → List Folder
    | [] => []
    | f :: rest => if f.path == path then { f with state } :: rest else f :: go rest

end Registry

/-! ## On the disk -/

/-- Whether a directory has no entries; one that is not there counts as empty. -/
def Disk.isEmptyDirectory (d : Disk) (path : Path) : Except Disk.Trouble Bool :=
  match d.list path with
  | .ok entries => .ok entries.isEmpty
  | .error .notFound => .ok true
  | .error trouble => .error trouble

/-- Removes an empty directory; one that is not there counts as removed. -/
def Disk.removeIfThere (d : Disk) (path : Path) : Except Disk.Trouble Disk :=
  match d.removeDirectory path with
  | .ok d' => .ok d'
  | .error .notFound => .ok d
  | .error trouble => .error trouble

/-- Judges a folder that a job is done with: it is finished for good when nothing is left in it,
and then its directory goes too. -/
def Disk.settle (d : Disk) (path : Path) : Disk × FolderState :=
  match d.isEmptyDirectory path with
  | .ok true =>
    match d.removeIfThere path with
    | .ok d' => (d', .finishedSuccessfully)
    | .error _ => (d, .finishedUnsuccessfully)
  | _ => (d, .finishedUnsuccessfully)

/-- A job is done with one path; a path that is not registered is left alone. -/
def Registry.finishOne (state : Disk × Registry) (path : Path) : Disk × Registry :=
  let (d, r) := state
  if (r.stateOf? path).isSome then
    let (d', s) := d.settle path
    (d', r.setState path s)
  else (d, r)

/-- A job is done with the given paths. -/
def Registry.finish (d : Disk) (r : Registry) (paths : List Path) : Disk × Registry :=
  paths.foldl finishOne (d, r)

/-- The path of the session folder `index` below `root`. -/
def sessionFolder (root : Path) (index : Nat) : Path :=
  root.child ("voice" ++ Text.Numeral.ofNat index)

/-- The disk after a stray session folder of an earlier run is removed. -/
def Disk.prepare (d : Disk) (folder : Path) : Disk :=
  match d.tryExists folder with
  | .ok true =>
    match d.removeTree folder with
    | .ok d' => d'
    | .error _ => d
  | _ => d

/-- The recordings directly inside one folder: regular files whose extension is `wav`. -/
def Disk.recordingsIn (d : Disk) (folder : Path) : List Path :=
  match d.list folder with
  | .ok entries =>
    (entries.filter (fun e => e.2 == .file)).map (fun e => folder.child e.1)
      |>.filter fun p => p.extension? == some "wav"
  | .error _ => []

/-- The recordings inside the given folders, in the order of their paths. -/
def Disk.recordings (d : Disk) (folders : List Path) : List Path :=
  Path.sort (folders.flatMap d.recordingsIn)

end PushToTalk
