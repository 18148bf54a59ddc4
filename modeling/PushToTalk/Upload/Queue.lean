import PushToTalk.Upload.Pass

/-
  The upload queue: jobs wait for a worker, and only so many workers run at once.

  Jobs are numbered in the order in which they are submitted and are started in that order.  A
  worker that ends or dies gives up its place.  When the dispatcher goes away the jobs that wait
  are lost and later ones are refused; workers that run go on.
-/

namespace PushToTalk.Upload

/-- The number of a job; no two jobs of a queue share one. -/
abbrev JobId := Nat

/-- Everything that a flush hands over. -/
structure Job where
  files : List Path
  folders : List Path
  /-- The unused tick requests; nobody else has them any more. -/
  pending : PendingTicks
  deriving Repr

/-- How a job ended. -/
inductive Outcome
  /-- Its worker came to the end of the pass. -/
  | reported (report : Report)
  /-- Its worker died, or it was never started. -/
  | lost
  deriving Repr

/-- The jobs between submission and end. -/
structure Queue where
  /-- How many workers may run at once; none counts as one. -/
  limit : Nat
  /-- Whether the dispatcher is there to take jobs. -/
  alive : Bool
  /-- Every job that was submitted; its place here is its number. -/
  jobs : List Job
  /-- Submitted and not started, the oldest first. -/
  waiting : List (JobId × Job)
  /-- Started and not over. -/
  running : List (JobId × Worker)
  /-- Over, with their outcomes. -/
  outcomes : List (JobId × Outcome)
  deriving Repr

namespace Queue

/-- A queue without jobs. -/
def start (limit : Nat) : Queue := ⟨limit, true, [], [], [], []⟩

/-- How many workers may run at once. -/
def places (q : Queue) : Nat := max 1 q.limit

/-- Submits a job, or hands it back when the dispatcher is gone. -/
def submit (q : Queue) (job : Job) : Except Job (Queue × JobId) :=
  if q.alive then
    .ok ({ q with jobs := q.jobs ++ [job], waiting := q.waiting ++ [(q.jobs.length, job)] },
      q.jobs.length)
  else .error job

/-- Starts a worker for the job that has waited longest, if there is a place for it. -/
def dispatch (q : Queue) : Option Queue :=
  match q.waiting with
  | (id, job) :: later =>
    if q.alive && q.running.length < q.places then
      some { q with
        waiting := later
        running := q.running ++ [(id, Worker.start job.files job.folders job.pending)] }
    else none
  | [] => none

/-- The worker of a job that runs. -/
def worker? (q : Queue) (id : JobId) : Option Worker :=
  (q.running.find? fun e => e.1 == id).map (·.2)

/-- Puts back the worker of a job after it moved; one that is over leaves the queue. -/
def update (q : Queue) (id : JobId) (w : Worker) : Queue :=
  match w.stage with
  | .ended =>
    { q with
      running := q.running.filter fun e => !(e.1 == id)
      outcomes := q.outcomes ++ [(id, .reported w.report)] }
  | .dead =>
    { q with
      running := q.running.filter fun e => !(e.1 == id)
      outcomes := q.outcomes ++ [(id, .lost)] }
  | _ => { q with running := q.running.map fun e => if e.1 == id then (id, w) else e }

/-- The dispatcher goes away. -/
def kill (q : Queue) : Queue :=
  { q with
    alive := false
    waiting := []
    outcomes := q.outcomes ++ q.waiting.map fun e => (e.1, .lost) }

/-- How a job ended, if it is over. -/
def outcome? (q : Queue) (id : JobId) : Option Outcome :=
  (q.outcomes.find? fun e => e.1 == id).map (·.2)

/-- The report of a job, if there is one. -/
def report? (q : Queue) (id : JobId) : Option Report :=
  match q.outcome? id with
  | some (.reported report) => some report
  | _ => none

end Queue

end PushToTalk.Upload
