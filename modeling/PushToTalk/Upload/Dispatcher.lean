import PushToTalk.Upload.Queue

/-
  The dispatcher of the upload queue, in its single steps.

  `Queue.dispatch` starts a worker in one step and looks at how many run.  The dispatcher itself
  counts no workers.  It takes the oldest job off a channel, whether or not another worker may run,
  and holds the job until it gets a permit.  The worker has the permit from then on; when it ends or
  dies the permit is free again, and only after that the report goes out to whoever submitted the
  job.
-/

namespace PushToTalk.Upload

/-- The dispatcher and the workers that it started. -/
structure Dispatcher where
  /-- How many workers may run at once; none counts as one. -/
  limit : Nat
  /-- Every job that was submitted; its place here is its number. -/
  jobs : List Job
  /-- Submitted and still on the channel, the oldest first. -/
  channel : List (JobId × Job)
  /-- Taken off the channel, and without a worker. -/
  held : Option (JobId × Job)
  /-- How many permits no worker has. -/
  permits : Nat
  /-- Every job that was started, in the order in which they were. -/
  started : List (JobId × Job)
  /-- Started and not over. -/
  running : List (JobId × Worker)
  /-- Over, with their outcomes. -/
  outcomes : List (JobId × Outcome)
  /-- Reports on their way to the receivers of their jobs. -/
  sending : List (JobId × Report)
  /-- What the receivers got, each under the number of its job. -/
  received : List (JobId × Report)
  deriving Repr

/-- Something that happens to the dispatcher or to its workers. -/
inductive Dispatcher.Event
  /-- A job is submitted. -/
  | submit (job : Job)
  /-- The dispatcher takes a job off the channel. -/
  | take
  /-- The dispatcher gets a permit for the job that it holds. -/
  | spawn
  /-- The worker of a job gets as far as `worker`; it may have ended or died. -/
  | work (id : JobId) (worker : Worker)
  /-- A report reaches the receiver of its job. -/
  | send (id : JobId)
  deriving Repr

namespace Dispatcher

/-- A dispatcher without jobs. -/
def start (limit : Nat) : Dispatcher where
  limit := limit
  jobs := []
  channel := []
  held := none
  permits := max 1 limit
  started := []
  running := []
  outcomes := []
  sending := []
  received := []

/-- The jobs without a worker, the oldest first. -/
def waiting (d : Dispatcher) : List (JobId × Job) := d.held.toList ++ d.channel

/-- The jobs that were submitted, each under its number. -/
def submitted (d : Dispatcher) : List (JobId × Job) := (List.range d.jobs.length).zip d.jobs

/-- Submits a job. -/
def submit (d : Dispatcher) (job : Job) : Dispatcher :=
  { d with jobs := d.jobs ++ [job], channel := d.channel ++ [(d.jobs.length, job)] }

/-- Takes the oldest job off the channel, unless a job is still held. -/
def take (d : Dispatcher) : Option Dispatcher :=
  match d.held, d.channel with
  | none, first :: later => some { d with held := some first, channel := later }
  | _, _ => none

/-- Starts a worker for the job that is held, and gives it a permit, if there is one. -/
def spawn (d : Dispatcher) : Option Dispatcher :=
  match d.held, d.permits with
  | some (id, job), permits + 1 =>
    some { d with
      held := none
      permits
      started := d.started ++ [(id, job)]
      running := d.running ++ [(id, Worker.start job.files job.folders job.pending)] }
  | _, _ => none

/-- The worker of a job is over, and its permit is free. -/
def free (d : Dispatcher) (id : JobId) (outcome : Outcome) : Dispatcher :=
  { d with
    permits := d.permits + 1
    running := d.running.filter fun e => !(e.1 == id)
    outcomes := d.outcomes ++ [(id, outcome)] }

/-- The worker of a job that runs gets as far as `worker`. -/
def work (d : Dispatcher) (id : JobId) (worker : Worker) : Dispatcher :=
  if id ∈ d.running.map (·.1) then
    match worker.stage with
    | .ended =>
      { d.free id (.reported worker.report) with sending := d.sending ++ [(id, worker.report)] }
    | .dead => d.free id .lost
    | _ => { d with running := d.running.map fun e => if e.1 == id then (id, worker) else e }
  else d

/-- The report of a job reaches its receiver, if it is on its way. -/
def send (d : Dispatcher) (id : JobId) : Dispatcher :=
  { d with
    sending := d.sending.filter fun e => !(e.1 == id)
    received := d.received ++ d.sending.filter fun e => e.1 == id }

/-- Carries out an event; one that is not possible at the moment changes nothing. -/
def step (d : Dispatcher) : Event → Dispatcher
  | .submit job => d.submit job
  | .take => d.take.getD d
  | .spawn => d.spawn.getD d
  | .work id worker => d.work id worker
  | .send id => d.send id

/-- Carries out events one after the other. -/
def run (d : Dispatcher) (events : List Event) : Dispatcher := events.foldl step d

/-- There is nothing that the dispatcher could do by itself. -/
def AtRest (d : Dispatcher) : Prop := d.take = none ∧ d.spawn = none

end Dispatcher

end PushToTalk.Upload
