import PushToTalk.Upload.Pass

/-
  A backend that follows a script.

  It stands in for the real one when the relay is rehearsed: what it answers to each kind of
  request is written down beforehand, and so are the faults it shows.  It can hold requests back
  until the script changes, and it can meddle with the disk when a file is finalized.
-/

namespace PushToTalk.Rehearsal

/-- What the backend does until further notice. -/
structure Script where
  /-- The answer to a tick fetch. -/
  tick : Answer
  /-- The answer to a file creation; the next file id when nothing is written down. -/
  create : Option Answer
  /-- The number of the chunk that is not taken, and what happens instead. -/
  chunk : Option (Nat × Answer)
  /-- The answer when a file is finalized. -/
  finalize : Answer
  /-- Whether tick fetches and file creations wait. -/
  hold : Bool
  /-- A file that is removed when any file is finalized. -/
  removes : Option Path
  /-- A file that is written when any file is finalized. -/
  writes : Option Path
  deriving Repr

/-- The kinds of fault that a script can ask for. -/
inductive FaultKind
  | timeout
  | connect
  | request
  | invalidUrl
  | aborted
  /-- The task that makes the exchange dies. -/
  | death
  deriving DecidableEq, Repr

/-- What the scripted backend calls itself in its faults. -/
def backendName : String := "mock backend"

/-- The end of an exchange with a fault of the given kind. -/
def FaultKind.answer : FaultKind → Answer
  | .timeout => .fault (.timeout backendName)
  | .connect => .fault (.connect backendName)
  | .request => .fault (.request backendName "boom")
  | .invalidUrl => .fault (.invalidUrl backendName)
  | .aborted => .fault (.aborted backendName)
  | .death => .death

/-- The tick that is answered when the script names none. -/
def standardTick : String :=
  Json.writeObject [("tickId", .integer 7), ("elapsed", .integer 42)]

/-- A backend that answers everything. -/
def Script.standard : Script :=
  ⟨.body standardTick, none, none, .body "", false, none, none⟩

/-- A backend with its script. -/
structure Backend where
  script : Script
  /-- How many file ids were given out. -/
  created : Nat
  /-- The tick fetches that are held back, with the answers they will get. -/
  held : List (FetchId × Answer)
  deriving Repr

namespace Backend

/-- A backend before any request. -/
def start (script : Script) : Backend := ⟨script, 0, []⟩

/-- The answer to a creation, with the next file id. -/
def createdBody (n : Nat) : String :=
  Json.writeObject [("fileId", .text ("f" ++ Text.Numeral.ofNat n))]

/-- The size of the file that is written when a file is finalized. -/
def intrusionSize : Nat := 3

/-- Changes to the disk when a file is finalized; those that fail leave it as it is. -/
def meddle (script : Script) (d : Disk) : Disk :=
  let d := match script.removes with
    | some p => (d.removeFile p).toOption.getD d
    | none => d
  match script.writes with
  | some p => (d.write p (Bytes.pattern intrusionSize)).toOption.getD d
  | none => d

/-- Answers a request of an upload worker, or holds it back. -/
def respond : Upload.Backend Backend := fun b s request =>
  match request.segments with
  | "createFile" :: _ =>
    if b.script.hold then none
    else match b.script.create with
      | some answer => some (b, s, answer)
      | none => some ({ b with created := b.created + 1 }, s, .body (createdBody b.created))
  | "fileChunk" :: rest =>
    match b.script.chunk with
    | some (index, answer) =>
      if rest[1]? = some (Text.Numeral.ofNat index) then some (b, s, answer)
      else some (b, s, .body "ignored")
    | none => some (b, s, .body "ignored")
  | _ => some (b, { s with disk := meddle b.script s.disk }, b.script.finalize)

end Backend

end PushToTalk.Rehearsal
