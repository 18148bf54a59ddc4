import PushToTalk.Tick

/-
  Tick fetches in the background.

  A fetch is started when a user begins to speak and answered some time later.  Only so many may
  be with the backend at once; the others wait their turn in the order in which they were
  started.  Whoever owns a fetch asks for its answer by its number.
-/

namespace PushToTalk

/-- The number of a fetch; no two fetches share one. -/
abbrev FetchId := Nat

/-- How far a fetch has come. -/
inductive FetchState
  /-- Waiting for its turn. -/
  | waiting
  /-- With the backend. -/
  | underway
  /-- Over. -/
  | answered (answer : Answer)
  deriving DecidableEq, Repr

/-- Every fetch started so far. -/
structure Fetches where
  /-- How many may be underway at once; none counts as one. -/
  limit : Nat
  /-- The fetches by number, in the order in which they were started. -/
  states : Table FetchId FetchState
  deriving Repr

namespace Fetches

/-- No fetches. -/
def start (limit : Nat) : Fetches := ⟨limit, .empty⟩

/-- The places with the backend. -/
def places (f : Fetches) : Nat := max 1 f.limit

/-- The fetches with the backend. -/
def underway (f : Fetches) : List FetchId :=
  (f.states.entries.filter fun e => e.2 == .underway).map (·.1)

/-- The fetches that wait for a place. -/
def waiting (f : Fetches) : List FetchId :=
  (f.states.entries.filter fun e => e.2 == .waiting).map (·.1)

/-- The answer of a fetch, once it is over. -/
def answer? (f : Fetches) (id : FetchId) : Option Answer :=
  match f.states.get? id with
  | some (.answered a) => some a
  | _ => none

/-- Starts a fetch; it gets the next number. -/
def launch (f : Fetches) : Fetches × FetchId :=
  ({ f with states := f.states.put f.states.size .waiting }, f.states.size)

/-- The first fetch that waits takes a free place. -/
def promote (f : Fetches) : Option (Fetches × FetchId) :=
  if f.underway.length < f.places then
    match f.waiting with
    | id :: _ => some ({ f with states := f.states.put id .underway }, id)
    | [] => none
  else none

/-- A fetch is over and gives up its place. -/
def settle (f : Fetches) (id : FetchId) (answer : Answer) : Fetches :=
  { f with states := f.states.put id (.answered answer) }

/-- A fetch that is over from the start. -/
def launchAnswered (f : Fetches) (answer : Answer) : Fetches × FetchId :=
  let (f, id) := f.launch
  (f.settle id answer, id)

end Fetches

/-! ## Owning a fetch -/

/-- A tick request that has not been used yet. -/
structure PendingTick where
  /-- The user's name when the fetch was started. -/
  name : String
  /-- The fetch that will give the tick. -/
  fetch : FetchId
  deriving DecidableEq, Repr

/-- The unused tick request of each user. -/
abbrev PendingTicks := Table UserId PendingTick

/-! ## Waiting for any request -/

/-- What gates a request in the background. -/
inductive Gate
  /-- Nothing. -/
  | none
  /-- A free place. -/
  | opened
  /-- A gate that lets nothing through any more. -/
  | shut
  deriving DecidableEq, Repr

/-- The outcome for whoever waits for a request that the backend answers with `answer`; nothing
is sent through a gate that is shut. -/
def Gate.outcome (gate : Gate) (answer : Answer) : Except Fault String :=
  match gate, answer with
  | .shut, _ => .error (.aborted "semaphore closed")
  | _, .body text => .ok text
  | _, .fault f => .error f
  | _, .death => .error (.aborted "task died")

end PushToTalk
