import PushToTalk.Control
import PushToTalk.Rehearsal.Backend
import PushToTalk.Relay.Move

/-
  Rehearsing the relay step by step.

  A scenario is a list of steps against a scripted backend and a recorder.  After every step the
  work in the background runs until it rests: tick fetches go to the backend and are answered,
  jobs are dispatched, workers move.  `Scenario.perform` makes one step and says what it gave;
  `Scenario.look` shows what has changed since the last look.
-/

namespace PushToTalk.Rehearsal

open Upload (Job JobId Worker Report Course Exchange)

/-! ## Steps -/

/-- A tick request that is handed to a worker together with its answer. -/
structure GivenTick where
  user : UserId
  name : String
  answer : Answer
  deriving Repr

/-- One step of a scenario. -/
inductive Step
  | setName (user : UserId) (name : String)
  | speech (user : UserId) (at_ : Instant)
  | frame (user : UserId) (isSpeech : Bool)
  | sweep (at_ : Instant)
  | sweepNow
  | toggle (was : Option Bool)
  | poll (was : Option Bool)
  | notify
  | take
  | flush
  | flushIfStopped
  | closeQueue
  | job (files folders : List Path) (pending : List GivenTick)
  | worker (files folders : List Path) (pending : List GivenTick)
  | script (script : Script)
  | recorderDrops (names : List String)
  | recorderNotifies (on : Bool)
  | beginRecording (path : Path)
  | endRecording
  | eligible
  | finished (paths : List Path)
  | stateOf (path : Path)
  | prepare (root : Path) (index : Nat)
  | scan (folders : List Path)
  | cachePut (path : Path) (tick : TickData)
  | cacheRemove (path : Path)
  | cacheGet (path : Path)
  | cacheSize
  | nameOf (user : UserId)
  | userRecord (user : UserId)
  | setTopic (topic : String)
  | write (path : Path) (size : Nat)
  | makeDirectory (path : Path)
  | remove (path : Path)
  | link (path target : Path)
  | list
  | call (call : Control.Call)
  deriving Repr

/-- What a step gives. -/
inductive Outcome
  | nothing
  | truth (b : Bool)
  /-- The report of a job or a worker. -/
  | report (report : Report)
  /-- No report will come. -/
  | noReport
  /-- The queue refused a job with these files. -/
  | refused (files : List Path)
  | path (path : Path)
  | paths (paths : List Path)
  | state (state : Option FolderState)
  | tick (tick : Option TickData)
  | size (entries : Nat)
  | name (name : Option String)
  | user (record : Option UserRecord)
  | lines (lines : List String)
  | reply (reply : Control.Reply)
  deriving Repr

/-- A scenario at one moment. -/
structure Scenario where
  relay : Relay
  backend : Backend
  /-- What the last look of the detector gave. -/
  was : Bool
  /-- How many toggles were shown. -/
  toggles : Nat
  /-- How many exchanges were shown. -/
  exchanges : Nat
  /-- How many tick fetches reached the backend. -/
  fetched : Nat
  /-- How many of those were shown. -/
  fetchedShown : Nat

namespace Scenario

/-- The real clock stands an hour before every time that a scenario names. -/
def clock : Instant := -3600000

/-- A scenario before its first step. -/
def start (options : Options) (settings : Settings) (recorder : Recorder) (script : Script) :
    Scenario :=
  ⟨.start options settings recorder, .start script, false, 0, 0, 0, 0⟩

/-- Changes the relay. -/
def mapRelay (s : Scenario) (f : Relay → Relay) : Scenario := { s with relay := f s.relay }

/-- Changes what detector and workers share. -/
def mapStation (s : Scenario) (f : Station → Station) : Scenario :=
  s.mapRelay fun r => { r with station := f r.station }

/-- Changes the disk; a change that fails leaves it as it is. -/
def mapDisk (s : Scenario) (f : Disk → Except Disk.Trouble Disk) : Scenario :=
  s.mapStation fun st => { st with disk := (f st.disk).toOption.getD st.disk }

/-! ## In the background -/

/-- Releases the tick fetches that were held back, unless they still are. -/
def release (s : Scenario) : Scenario :=
  if s.backend.script.hold then s
  else
    { s with
      relay := s.backend.held.foldl (fun r e => r.settleFetch e.1 e.2) s.relay
      backend := { s.backend with held := [] } }

/-- Lets waiting tick fetches reach the backend, as long as there are places; `fuel` counts the
fetches. -/
def fetchTicks : Nat → Scenario → Scenario
  | 0, s => s
  | fuel + 1, s =>
    match s.relay.fetches.promote with
    | none => s
    | some (fetches, id) =>
      let answer := s.backend.script.tick
      let s := { s with relay := { s.relay with fetches }, fetched := s.fetched + 1 }
      if s.backend.script.hold then
        fetchTicks fuel { s with backend := { s.backend with held := s.backend.held ++ [(id, answer)] } }
      else fetchTicks fuel (s.mapRelay fun r => r.settleFetch id answer)

/-- Moves a worker as far as it goes. -/
def drive (s : Scenario) (w : Worker) : Scenario × Worker :=
  let course := Course.run Backend.respond s.relay.fetches.answer?
    ⟨s.backend, s.relay.station, w, []⟩
  ({ s with
      backend := course.backend
      relay := { s.relay with
        station := course.station
        exchanges := s.relay.exchanges ++ course.exchanges } },
    course.worker)

/-- Moves the worker of a job as far as it goes. -/
def driveJob (s : Scenario) (id : JobId) : Scenario :=
  match s.relay.queue.worker? id with
  | none => s
  | some w =>
    let (s, w) := s.drive w
    s.mapRelay fun r => { r with queue := r.queue.update id w }

/-- Moves all workers, then starts as many jobs as there are places, and so on; `fuel` counts the
jobs that wait. -/
def work : Nat → Scenario → Scenario
  | 0, s => (s.relay.queue.running.map (·.1)).foldl driveJob s
  | fuel + 1, s =>
    let s := (s.relay.queue.running.map (·.1)).foldl driveJob s
    work fuel (s.mapRelay Relay.dispatch)

/-- Everything in the background runs until it rests. -/
def settle (s : Scenario) : Scenario :=
  let s := s.release
  let s := fetchTicks s.relay.fetches.states.size s
  work (s.relay.queue.waiting.length + 1) s

/-! ## Performing -/

/-- Starts the requests that a worker is given, each over from the start. -/
def giveTicks (s : Scenario) (given : List GivenTick) : Scenario × PendingTicks :=
  given.foldl
    (fun (s, pending) g =>
      let (fetches, id) := s.relay.fetches.launchAnswered g.answer
      (s.mapRelay fun r => { r with fetches }, pending.put g.user ⟨g.name, id⟩))
    (s, Table.empty)

/-- Waits for the report of a job. -/
def await (s : Scenario) (id : Option JobId) : Scenario × Outcome :=
  let s := s.settle
  match id.bind s.relay.queue.report? with
  | some report => (s, .report report)
  | none => (s, .noReport)

/-- Everything on the disk: directories end in a slash, files show their sizes, links an `@`. -/
def listing (d : Disk) : List String :=
  let line (e : Place × Disk.Node) : String :=
    let name := "/".intercalate e.1
    match e.2 with
    | .directory => name ++ "/"
    | .file bytes => name ++ " " ++ Text.Numeral.ofNat bytes.length
    | .link _ => name ++ "@"
  (d.nodes.entries.map line).mergeSort fun a b => !(b < a)

/-- Writes a file of the given size and whatever directories are missing above it. -/
def writeFile (d : Disk) (path : Path) (size : Nat) : Except Disk.Trouble Disk :=
  let d := match path.parent? with
    | some folder => (d.makeDirectories folder).toOption.getD d
    | none => d
  d.write path (Bytes.pattern size)

/-- Removes a file, a link or a whole tree. -/
def removeAny (d : Disk) (path : Path) : Except Disk.Trouble Disk :=
  match d.removeTree path with
  | .ok d => .ok d
  | .error _ => d.removeFile path

/-- Makes one step; the background work that it starts has not run yet, unless the step waits
for it. -/
def act (s : Scenario) : Step → Scenario × Outcome
  | .setName user name => (s.mapRelay (·.setName user name), .nothing)
  | .speech user now => (s.mapRelay (·.reportSpeech user now), .nothing)
  | .frame user isSpeech => (s.mapRelay (·.reportFrame user isSpeech clock), .nothing)
  | .sweep now => (s.mapRelay (·.sweep now), .truth (s.relay.stillSpeaking now))
  | .sweepNow => (s.mapRelay (·.sweep clock), .truth (s.relay.stillSpeaking clock))
  | .toggle was =>
    let s := s.mapRelay (·.toggleIfEdge (was.getD s.was))
    ({ s with was := s.relay.anyoneSpeaking }, .truth s.relay.anyoneSpeaking)
  | .poll was =>
    let s := s.mapRelay fun r => (r.pollOnce (was.getD s.was) clock).1
    ({ s with was := s.relay.anyoneSpeaking }, .truth s.relay.anyoneSpeaking)
  | .notify => (s.mapRelay (·.notify), .nothing)
  | .take => (s.mapRelay (·.takeStopped), .truth s.relay.stopped)
  | .flush =>
    let (relay, id) := s.relay.flush
    await { s with relay } id
  | .flushIfStopped =>
    match s.relay.flushIfStopped with
    | (relay, some id) => await { s with relay } id
    | (relay, none) => ({ s with relay }, .nothing)
  | .closeQueue => (s.mapRelay (·.closeQueue), .nothing)
  | .job files folders given =>
    let (s, pending) := s.giveTicks given
    match s.relay.queue.submit ⟨files, folders, pending⟩ with
    | .ok (queue, id) => await (s.mapRelay fun r => { r with queue }) (some id)
    | .error job => (s, .refused job.files)
  | .worker files folders given =>
    let (s, pending) := s.giveTicks given
    let (s, w) := s.settle.drive (.start files folders pending)
    (s, (w.report?.map Outcome.report).getD .noReport)
  | .script script => ({ s with backend := { s.backend with script } }, .nothing)
  | .recorderDrops names =>
    (s.mapRelay fun r => { r with recorder := { r.recorder with drops := names } }, .nothing)
  | .recorderNotifies on =>
    (s.mapRelay fun r => { r with recorder := { r.recorder with notifiesOnStop := on } }, .nothing)
  | .beginRecording path =>
    (s.mapStation fun st => { st with folders := st.folders.beginRecording path }, .nothing)
  | .endRecording =>
    (s.mapStation fun st => { st with folders := st.folders.endRecording }, .nothing)
  | .eligible =>
    (s.mapStation fun st => { st with folders := st.folders.afterScan },
      .paths s.relay.station.folders.eligible)
  | .finished paths => (s.mapStation (·.finish paths), .nothing)
  | .stateOf path => (s, .state (s.relay.station.folders.stateOf? path))
  | .prepare root index =>
    let folder := sessionFolder root index
    (s.mapStation fun st => { st with disk := st.disk.prepare folder }, .path folder)
  | .scan folders => (s, .paths (s.relay.station.disk.recordings folders))
  | .cachePut path tick => (s.mapStation (·.remember path tick), .nothing)
  | .cacheRemove path => (s.mapStation (·.forget path), .nothing)
  | .cacheGet path => (s, .tick (s.relay.station.cache.get? path))
  | .cacheSize => (s, .size s.relay.station.cache.size)
  | .nameOf user => (s, .name (s.relay.station.users.nameOf? user))
  | .userRecord user => (s, .user (s.relay.station.users.get? user))
  | .setTopic topic =>
    (s.mapStation fun st => { st with settings := st.settings.setTopic topic },
      .truth (Settings.acceptsTopic topic))
  | .write path size => (s.mapDisk fun d => writeFile d path size, .nothing)
  | .makeDirectory path => (s.mapDisk fun d => d.makeDirectories path, .nothing)
  | .remove path => (s.mapDisk fun d => removeAny d path, .nothing)
  | .link path target => (s.mapDisk fun d => d.link path target, .nothing)
  | .list => (s, .lines (listing s.relay.station.disk))
  | .call call =>
    let (relay, reply) := Control.serve s.relay clock call
    ({ s with relay }, .reply reply)

/-- Makes one step and lets the background come to rest. -/
def perform (s : Scenario) (step : Step) : Scenario × Outcome :=
  let (s, outcome) := s.act step
  (s.settle, outcome)

/-! ## Looking -/

/-- What a scenario shows after a step. -/
structure View where
  anyoneSpeaking : Bool
  /-- Those of the watched users who have an unused tick request, in ascending order. -/
  pending : List UserId
  pendingCount : Nat
  stopped : Bool
  folders : List Folder
  /-- The retry cache in the order of its paths. -/
  cache : List (Path × TickData)
  /-- What the recorder was told since the last look. -/
  toggles : List Toggle
  /-- The requests of upload workers since the last look. -/
  requests : List Request
  /-- The tick fetches that reached the backend since the last look. -/
  fetched : Nat
  deriving Repr

/-- The entries of a table of paths in the order of the paths. -/
def sortedCache (c : RetryCache) : List (Path × TickData) :=
  c.entries.mergeSort fun a b => (a.1.compare b.1).isLE

/-- What there is to see, and the scenario with all of it marked as shown. -/
def look (s : Scenario) (watched : List UserId) : Scenario × View :=
  let r := s.relay
  ({ s with
      toggles := r.toggles.length
      exchanges := r.exchanges.length
      fetchedShown := s.fetched },
    { anyoneSpeaking := r.anyoneSpeaking
      pending := ((watched.filter fun u => r.pending.has u).mergeSort fun a b => a ≤ b).eraseDups
      pendingCount := r.pending.size
      stopped := r.stopped
      folders := r.station.folders.folders
      cache := sortedCache r.station.cache
      toggles := r.toggles.drop s.toggles
      requests := (r.exchanges.drop s.exchanges).map (·.request)
      fetched := s.fetched - s.fetchedShown })

/-- Makes the steps one after the other and looks after each. -/
def rehearse (watched : List UserId) : Scenario → List Step → List (Outcome × View)
  | _, [] => []
  | s, step :: steps =>
    let (s, outcome) := s.perform step
    let (s, view) := s.look watched
    (outcome, view) :: rehearse watched s steps

end Scenario

end PushToTalk.Rehearsal
