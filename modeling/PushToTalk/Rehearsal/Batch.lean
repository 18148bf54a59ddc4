import PushToTalk.Rehearsal.Scenario

/-
  Rehearsing the upload queue with many jobs at once.

  Every job has one file in a folder of its own.  All of them are submitted while the backend
  holds back the creation of files, which shows how many workers run at once; then it is released.
-/

namespace PushToTalk.Rehearsal

/-- A batch of jobs on their way. -/
structure Batch where
  scenario : Scenario
  /-- The numbers of the jobs, in the order of their folders; none for a job that was refused. -/
  jobs : List (Option Upload.JobId)

namespace Batch

/-- The folder of job `index`. -/
def folder (index : Nat) : Path := sessionFolder (.ofText "/") index

/-- The file of job `index`. -/
def file (index : Nat) : Path := (folder index).child (Text.Numeral.ofNat index ++ "-a.wav")

/-- Submits the next job, with a file of the given size. -/
def submit (b : Batch) (size : Nat) : Batch :=
  let index := b.jobs.length
  let s := b.scenario.mapDisk fun d => Scenario.writeFile d (file index) size
  let s := s.mapStation fun st =>
    let begun := (st.folders.beginRecording (folder index)).endRecording
    { st with folders := begun.afterScan }
  match s.relay.queue.submit ⟨[file index], [folder index], .empty⟩ with
  | .ok (queue, id) => ⟨s.mapRelay fun r => { r with queue }, b.jobs ++ [some id]⟩
  | .error _ => ⟨s, b.jobs ++ [none]⟩

/-- The jobs with files of the given sizes, all submitted while the backend holds. -/
def start (limit : Nat) (sizes : List Nat) : Batch :=
  let options : Options :=
    { root := .ofText "/", pollInterval := 100, speakingTimeout := 100
      maxFetches := 1, maxUploads := limit }
  let scenario := Scenario.start options .standard ⟨[], false⟩ { Script.standard with hold := true }
  let b := sizes.foldl submit ⟨scenario, []⟩
  { b with scenario := b.scenario.settle }

/-- How many workers wait for a file to be created. -/
def creating (b : Batch) : Nat :=
  b.scenario.relay.queue.running.countP fun e =>
    match e.2.stage with
    | .creating .. => true
    | _ => false

/-- The backend goes on, and all jobs come to their ends. -/
def release (b : Batch) : Batch :=
  let s := b.scenario
  { b with scenario := { s with backend := { s.backend with script := .standard } }.settle }

/-- The report of every job. -/
def reports (b : Batch) : List (Option Upload.Report) :=
  b.jobs.map fun id => id.bind b.scenario.relay.queue.report?

end Batch

end PushToTalk.Rehearsal
