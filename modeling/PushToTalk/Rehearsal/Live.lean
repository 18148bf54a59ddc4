import PushToTalk.Rehearsal.Scenario

/-
  Rehearsing the relay while its detector runs by itself.

  The detector looks at who is speaking again and again until it is shut down.  A step of a live
  rehearsal says what people and recorder do, and is over when the detector has seen it and the
  background is at rest.  After a shutdown nothing looks any more, but speech is still taken in.
-/

namespace PushToTalk.Rehearsal

/-- One step of a live rehearsal. -/
inductive LiveStep
  | setName (user : UserId) (name : String)
  | script (script : Script)
  | recorderDrops (names : List String)
  | notify
  /-- The users speak until a recording starts, then are silent until it stops. -/
  | talk (users : List UserId)
  /-- Waits until every recording that was completed is delivered or has failed. -/
  | rest
  | shutdown
  /-- A speech frame of a user. -/
  | frame (user : UserId)
  deriving Repr

/-- A live rehearsal at one moment. -/
structure Live where
  scenario : Scenario
  /-- Whether the detector still looks. -/
  running : Bool

namespace Live

/-- A live rehearsal before its first step. -/
def start (options : Options) (settings : Settings) (recorder : Recorder) (script : Script) :
    Live :=
  ⟨.start options settings recorder script, true⟩

/-- The detector's next look, at `now`; there is none after a shutdown. -/
def look (l : Live) (now : Instant) : Live :=
  if l.running then
    let s := l.scenario.mapRelay fun r => (r.pollOnce l.scenario.was now).1
    { l with scenario := { s with was := s.relay.anyoneSpeaking }.settle }
  else l

/-- Changes the scenario and lets the background come to rest. -/
def change (l : Live) (f : Scenario → Scenario) : Live :=
  { l with scenario := (f l.scenario).settle }

/-- The moment at which whoever spoke last has been silent for long enough. -/
def silence (l : Live) : Instant := Scenario.clock + l.scenario.relay.options.speakingTimeout

/-- Whether nothing is left to do: no completion waits, and every folder was judged. -/
def isAtRest (l : Live) : Bool :=
  !l.scenario.relay.stopped && l.scenario.relay.station.folders.folders.all fun f =>
    f.state == .finishedSuccessfully || f.state == .finishedUnsuccessfully

/-- Makes one step; says whether what it waits for has happened, or whether anyone speaks. -/
def perform (l : Live) : LiveStep → Live × Option Bool
  | .setName user name => (l.change (·.mapRelay (·.setName user name)), none)
  | .script script =>
    (l.change fun s => { s with backend := { s.backend with script } }, none)
  | .recorderDrops names =>
    (l.change (·.mapRelay fun r => { r with recorder := { r.recorder with drops := names } }), none)
  | .notify => (l.change (·.mapRelay (·.notify)), none)
  | .talk users =>
    let spoken := l.change fun s =>
      s.mapRelay fun r => users.foldl (fun r u => r.reportFrame u true Scenario.clock) r
    let started := spoken.look Scenario.clock
    let stopped := started.look started.silence
    (stopped, some (started.scenario.was && !stopped.scenario.was))
  | .rest =>
    let l := l.look l.silence
    (l, some l.isAtRest)
  | .shutdown => ({ l with running := false }, none)
  | .frame user =>
    let l := (l.change (·.mapRelay (·.reportFrame user true Scenario.clock))).look Scenario.clock
    (l, some l.scenario.relay.anyoneSpeaking)

/-- Makes the steps one after the other; gives the outcome of each and the rehearsal after it. -/
def rehearse : Live → List LiveStep → List (Option Bool × Live)
  | _, [] => []
  | l, step :: steps =>
    let (l, outcome) := l.perform step
    (outcome, l) :: rehearse l steps

end Live

end PushToTalk.Rehearsal
