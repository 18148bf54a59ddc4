import PushToTalk.Relay

/-
  Runs of the relay: any interleaving of what can happen to it.

  A `Move` is one thing that happens: a call of the voice host, a look of the detector, a step of
  a background fetch or of an upload worker, an answer of the backend, a file of the recorder.
  `Relay.move` carries it out; a move that is not possible at the moment changes nothing.  A run
  is a list of moves.
-/

namespace PushToTalk

open Upload (JobId Worker)

/-- Something that happens to the relay. -/
inductive Move
  /-- The host names a user. -/
  | setName (user : UserId) (name : String)
  /-- The host hears a user. -/
  | speech (user : UserId) (now : Instant)
  /-- The detector ends what is over. -/
  | sweep (now : Instant)
  /-- The detector compares with what it saw before. -/
  | toggle (was : Bool)
  /-- The recorder reports completion. -/
  | notify
  /-- A flush, whether completion was reported or not. -/
  | flush
  /-- A flush if completion was reported. -/
  | flushIfStopped
  /-- A whole look of the detector. -/
  | poll (was : Bool) (now : Instant)
  /-- The recorder makes an entry in the folder of the running session. -/
  | record (name : String) (node : Disk.Node)
  /-- A waiting fetch goes to the backend. -/
  | fetch
  /-- A fetch that is underway is answered. -/
  | tick (id : FetchId) (answer : Answer)
  /-- A waiting job gets a worker. -/
  | dispatch
  /-- A worker makes a step of its own. -/
  | advance (id : JobId)
  /-- The backend answers a worker's request. -/
  | answer (id : JobId) (answer : Answer)
  /-- The upload dispatcher goes away. -/
  | closeQueue
  deriving Repr

namespace Relay

/-- The recorder makes an entry in the folder of the running session: writes a file, or makes a
directory or a link there. -/
def record (r : Relay) (name : String) (node : Disk.Node) : Relay :=
  match r.station.folders.active with
  | none => r
  | some folder =>
    match r.station.disk.make (folder.child name) node with
    | .ok disk => { r with station := { r.station with disk } }
    | .error _ => r

/-- A waiting fetch goes to the backend. -/
def promote (r : Relay) : Relay :=
  match r.fetches.promote with
  | some (fetches, _) => { r with fetches }
  | none => r

/-- A fetch that is underway is answered. -/
def settleFetch (r : Relay) (id : FetchId) (answer : Answer) : Relay :=
  if r.fetches.states.get? id = some .underway then
    { r with fetches := r.fetches.settle id answer }
  else r

/-- A waiting job gets a worker. -/
def dispatch (r : Relay) : Relay :=
  match r.queue.dispatch with
  | some queue => { r with queue }
  | none => r

/-- A worker makes a step of its own. -/
def advance (r : Relay) (id : JobId) : Relay :=
  match r.queue.worker? id with
  | none => r
  | some w =>
    match w.advance r.fetches.answer? r.station with
    | some (station, w) => { r with station, queue := r.queue.update id w }
    | none => r

/-- The backend answers the request that a worker is waiting for. -/
def answerWorker (r : Relay) (id : JobId) (answer : Answer) : Relay :=
  match r.queue.worker? id with
  | none => r
  | some w =>
    match w.stage.request?, w.stage.file? with
    | some request, some file =>
      let (station, w) := w.receive r.station answer
      { r with
        station
        queue := r.queue.update id w
        exchanges := r.exchanges ++ [⟨file, request, answer⟩] }
    | _, _ => r

/-- The upload dispatcher goes away. -/
def closeQueue (r : Relay) : Relay := { r with queue := r.queue.kill }

/-- Carries out a move. -/
def move (r : Relay) : Move → Relay
  | .setName user name => r.setName user name
  | .speech user now => r.reportSpeech user now
  | .sweep now => r.sweep now
  | .toggle was => r.toggleIfEdge was
  | .notify => r.notify
  | .flush => r.flush.1
  | .flushIfStopped => r.flushIfStopped.1
  | .poll was now => (r.pollOnce was now).1
  | .record name node => r.record name node
  | .fetch => r.promote
  | .tick id answer => r.settleFetch id answer
  | .dispatch => r.dispatch
  | .advance id => r.advance id
  | .answer id answer => r.answerWorker id answer
  | .closeQueue => r.closeQueue

/-- A relay that has done nothing yet, over whatever is on the disk. -/
def startOn (disk : Disk) (options : Options) (settings : Settings) (recorder : Recorder) :
    Relay :=
  let r := Relay.start options settings recorder
  { r with station := { r.station with disk } }

/-- Carries out moves one after the other. -/
def run (r : Relay) (moves : List Move) : Relay := moves.foldl move r

end Relay

end PushToTalk
