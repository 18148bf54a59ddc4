import PushToTalk.Recorder
import PushToTalk.Upload.Queue

/-
  The relay: speech in, recording sessions and upload jobs out.

  Speech frames come in for single users.  While anyone speaks the recorder runs, each time into a
  folder of its own.  When the recorder has finished its files a flush scans the session folders
  and hands their files to the upload queue, together with the tick requests that were started
  since the last flush.

  Every function here is one step that nothing else comes in between, except `pollOnce`, which is
  three of them in a row.
-/

namespace PushToTalk

open Upload (Job JobId Queue Worker Exchange)

/-- How the relay is set up. -/
structure Options where
  /-- Session folders are made directly below this directory. -/
  root : Path
  /-- Milliseconds between two looks at who is speaking. -/
  pollInterval : Nat
  /-- A user without speech for this many milliseconds is silent. -/
  speakingTimeout : Nat
  /-- How many tick fetches may be underway at once. -/
  maxFetches : Nat
  /-- How many upload workers may run at once. -/
  maxUploads : Nat
  deriving Repr

/-- The relay at one moment. -/
structure Relay where
  options : Options
  station : Station
  recorder : Recorder
  fetches : Fetches
  /-- The unused tick request of each user. -/
  pending : PendingTicks
  /-- Whether the recorder has reported completion since the last flush that asked. -/
  stopped : Bool
  /-- The number of the next session; after the last number of 64 bits comes zero. -/
  nextSession : UInt64
  queue : Queue
  /-- What the recorder was told so far. -/
  toggles : List Toggle
  /-- The exchanges of the upload workers so far. -/
  exchanges : List Exchange

namespace Relay

/-- A relay that has done nothing yet. -/
def start (options : Options) (settings : Settings) (recorder : Recorder) : Relay where
  options := options
  station := .start settings
  recorder := recorder
  fetches := .start options.maxFetches
  pending := .empty
  stopped := false
  nextSession := 0
  queue := .start options.maxUploads
  toggles := []
  exchanges := []

/-! ## Speech -/

/-- Sets a user's name. -/
def setName (r : Relay) (user : UserId) (name : String) : Relay :=
  { r with station := { r.station with users := r.station.users.setName user name } }

/-- Takes in speech of a user. The first speech since the last flush starts a tick fetch, under
the name that the user has now. -/
def reportSpeech (r : Relay) (user : UserId) (now : Instant) : Relay :=
  let users := r.station.users.markSpeaking user now
  let r := { r with station := { r.station with users } }
  if r.pending.has user then r
  else
    let (fetches, id) := r.fetches.launch
    { r with
      fetches
      pending := r.pending.put user ⟨(users.record user).name, id⟩ }

/-- Takes in an audio frame. -/
def reportFrame (r : Relay) (user : UserId) (isSpeech : Bool) (now : Instant) : Relay :=
  if isSpeech then r.reportSpeech user now else r

/-- Ends the speaking of everyone who is silent by now. -/
def sweep (r : Relay) (now : Instant) : Relay :=
  { r with station :=
    { r.station with users := r.station.users.sweep now r.options.speakingTimeout } }

/-- What a sweep answers: whether anyone goes on speaking. -/
def stillSpeaking (r : Relay) (now : Instant) : Bool :=
  r.station.users.stillSpeaking now r.options.speakingTimeout

/-- Whether anyone is speaking. -/
def anyoneSpeaking (r : Relay) : Bool := r.station.users.anyoneSpeaking

/-! ## Sessions -/

/-- Tells the recorder to start or to stop. -/
def tell (r : Relay) (toggle : Toggle) : Relay :=
  { r with
    station := { r.station with disk := r.recorder.onDisk r.station.disk toggle }
    stopped := r.stopped || r.recorder.notifies toggle
    toggles := r.toggles ++ [toggle] }

/-- Starts a session in a folder of its own. -/
def startSession (r : Relay) : Relay :=
  let folder := sessionFolder r.options.root r.nextSession.toNat
  let station := { r.station with
    disk := r.station.disk.prepare folder
    folders := r.station.folders.beginRecording folder }
  { r with station, nextSession := r.nextSession + 1 }.tell (.start folder)

/-- Ends the session that is running. -/
def endSession (r : Relay) : Relay :=
  { r with station :=
    { r.station with folders := r.station.folders.endRecording } }.tell .stop

/-- Toggles the recorder if it has changed whether anyone speaks since `was`. -/
def toggleIfEdge (r : Relay) (was : Bool) : Relay :=
  match was, r.anyoneSpeaking with
  | false, true => r.startSession
  | true, false => r.endSession
  | _, _ => r

/-- The recorder reports that the files of a session are finished. -/
def notify (r : Relay) : Relay := { r with stopped := true }

/-- Forgets a completion that was reported. -/
def takeStopped (r : Relay) : Relay := { r with stopped := false }

/-! ## Flushing -/

/-- The job of a flush. -/
def flushJob (r : Relay) : Job :=
  let folders := r.station.folders.eligible
  ⟨r.station.disk.recordings folders, folders, r.pending⟩

/-- Hands the finished recordings and all unused tick requests to the upload queue; gives the
number of the job. When the queue refuses, the folders are judged at once. -/
def flush (r : Relay) : Relay × Option JobId :=
  let job := r.flushJob
  let station := { r.station with folders := r.station.folders.afterScan }
  let r := { r with station, pending := .empty }
  match r.queue.submit job with
  | .ok (queue, id) => ({ r with queue }, some id)
  | .error job => ({ r with station := r.station.finish job.folders }, none)

/-- Flushes if completion has been reported; gives the number of the job then. -/
def flushIfStopped (r : Relay) : Relay × Option (Option JobId) :=
  if r.stopped then
    let (r, id) := r.takeStopped.flush
    (r, some id)
  else (r, none)

/-- One look at who is speaking: ends what is over, toggles the recorder on a change, flushes if
a recording is complete. -/
def pollOnce (r : Relay) (was : Bool) (now : Instant) : Relay × Option (Option JobId) :=
  ((r.sweep now).toggleIfEdge was).flushIfStopped

end Relay

end PushToTalk
