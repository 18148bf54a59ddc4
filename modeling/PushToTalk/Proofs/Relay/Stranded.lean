import Mathlib
import PushToTalk.Proofs.Relay.Exclusivity
import PushToTalk.Proofs.Relay.GivenUp
import PushToTalk.Proofs.Relay.LifeCycle

/-
  What a worker that dies leaves behind.

  The folders of a flush are handed back in the last step of their worker.  A worker that dies in an
  exchange never makes that step: its permit is free again, but its job stays open, and the folders
  of the job stay in processing.  So whenever the queue is idle, the folders in processing are those
  of the workers that have died, and no others; no later flush takes them, while everything that is
  recorded in any other folder is part of the next flush.

  1. **Jobs that are lost** — `Queue.IsLost` is a job without a worker that will report back.  In an
     idle queue the open jobs are the lost ones, so the folders in processing are theirs
     (`Ownership.processing_iff`).

  2. **Deaths** — with the dispatcher there, only a death loses a job (`Step.over`).  So the lost
     jobs are those of dead workers (`stranded_iff_isLost`), which are told by the history alone.

  3. **For good** — what is over stays over, and the job of a dead worker is open at any later time;
     an open job's folders are taken by no flush (`Stranded.forever`).

  4. **A run** — a worker dies while it asks for a new file.  Its folder is in processing although
     no job waits or runs.

  When the dispatcher goes away, the jobs that wait are lost as well, and the folders in processing
  are more than those of dead workers; such states are left out.

  Main statements: `dead_workers_leave_behind` and `folder_left_in_processing`.
-/

namespace PushToTalk

open Upload (Job JobId Outcome Queue Worker)

/-! ## Jobs that are lost -/

namespace Upload.Queue

variable {q : Queue} {id : JobId} {job : Job}

/-- A job that is over, and that nobody will report back. -/
def IsLost (q : Queue) (id : JobId) (job : Job) : Prop :=
  q.jobs[id]? = some job ∧ (id, Outcome.lost) ∈ q.outcomes

/-- A job that is lost has not reported back, and will not. -/
theorem IsLost.isOpen (hv : q.Valid) (h : q.IsLost id job) : q.IsOpen id job := by
  refine ⟨h.1, fun report hover => ?_⟩
  cases hv.outcome_unique h.2 hover

/-- In an idle queue the jobs that have not reported back are the lost ones. -/
theorem isOpen_iff_isLost (hv : q.Valid) (hwaiting : q.waiting = []) (hrunning : q.running = []) :
    q.IsOpen id job ↔ q.IsLost id job := by
  constructor
  swap
  · exact IsLost.isOpen hv
  intro ho
  obtain ⟨hlt, -⟩ := List.getElem?_eq_some_iff.1 ho.1
  have hid : id ∈ q.ids := hv.ids_perm.mem_iff.2 (List.mem_range.2 hlt)
  unfold ids at hid
  rw [hwaiting, hrunning] at hid
  obtain ⟨⟨_, outcome⟩, he, rfl⟩ := List.mem_map.1 hid
  refine ⟨ho.1, ?_⟩
  cases outcome with
  | lost => exact he
  | reported report => exact absurd he (ho.2 report)

end Upload.Queue

/-- In an idle queue the folders in processing are those of the lost jobs. -/
theorem Ownership.processing_iff {root : Path} {n : Nat} {reg : Registry} {q : Queue}
    (h : Ownership root n reg q) (hwaiting : q.waiting = []) (hrunning : q.running = [])
    {f : Folder} (hf : f ∈ reg.folders) :
    f.state = .processing ↔ ∃ id job, q.IsLost id job ∧ f.path ∈ job.folders := by
  constructor
  · intro hs
    obtain ⟨id, job, ho, hm⟩ := h.owned f hf hs
    exact ⟨id, job, (Queue.isOpen_iff_isLost h.queue hwaiting hrunning).1 ho, hm⟩
  · rintro ⟨id, job, hl, hm⟩
    obtain ⟨g, hg, hgp, hgs⟩ := h.held id job (hl.isOpen h.queue) f.path hm
    rwa [h.unique hf hg hgp.symm]

/-! ## Deaths -/

namespace Relay

variable {r r' : Relay} {m : Move} {id : JobId}

/-- The worker of a job dies in the exchange that it is in. -/
def Dies (r : Relay) (m : Move) (id : JobId) : Prop :=
  m = .answer id .death ∧ ∃ w request, (id, w) ∈ r.queue.running ∧ w.stage.request? = some request

/-- A worker in an exchange is at a file. -/
theorem file_of_request {stage : Upload.Stage} {request : Request}
    (h : stage.request? = some request) : ∃ file, stage.file? = some file := by
  cases stage <;> first | exact ⟨_, rfl⟩ | cases h

/-- The job of a worker that dies is lost. -/
theorem lost_of_death (hv : r.queue.Valid) (h : r.Dies m id) :
    (id, .lost) ∈ (r.move m).queue.outcomes := by
  obtain ⟨rfl, w, request, hrun, hreq⟩ := h
  obtain ⟨file, hfile⟩ := file_of_request hreq
  show (id, .lost) ∈ (r.answerWorker id .death).queue.outcomes
  unfold answerWorker
  simp only [hv.worker?_eq_some hrun, hreq, hfile]
  refine Queue.mem_outcomes_update.2 (Or.inr (Or.inr ⟨?_, rfl⟩))
  -- there are three kinds of exchange, and death ends each of them alike
  cases hs : w.stage with
  | creating d chunks => simp only [Worker.receive, hs]
  | sending d fileId index chunk later => simp only [Worker.receive, hs]
  | finalizing d fileId topic => simp only [Worker.receive, hs]
  | _ =>
    rw [hs] at hreq
    cases hreq

/-- What is over stays over, the dispatcher does not come back, and as long as it is there only a
death loses a job. -/
theorem Step.over (h : Step r m r') : (∀ e ∈ r.queue.outcomes, e ∈ r'.queue.outcomes) ∧
    (r'.queue.alive = true → r.queue.alive = true ∧ ∀ id, (id, .lost) ∈ r'.queue.outcomes →
      (id, .lost) ∈ r.queue.outcomes ∨ r.Dies m id) := by
  have hsame : ∀ {q : Queue}, q.outcomes = r.queue.outcomes → q.alive = r.queue.alive →
      (∀ e ∈ r.queue.outcomes, e ∈ q.outcomes) ∧
        (q.alive = true → r.queue.alive = true ∧ ∀ id, (id, .lost) ∈ q.outcomes →
          (id, .lost) ∈ r.queue.outcomes ∨ r.Dies m id) := by
    intro q ho ha
    rw [ho, ha]
    exact ⟨fun _ he => he, fun halive => ⟨halive, fun _ hl => Or.inl hl⟩⟩
  cases h with
  | quiet _ _ hq => exact hsame (by rw [hq.queue]) (by rw [hq.queue])
  | start _ _ hr =>
    rw [hr]
    exact hsame rfl rfl
  | stop _ _ hr =>
    rw [hr]
    exact hsame rfl rfl
  | flush _ hq =>
    rw [hq.queue]
    rcases flush_cases r with ⟨queue, id, hs, hr⟩ | hr <;> rw [hr]
    · obtain ⟨-, rfl⟩ := Queue.submit_eq_ok hs
      exact hsame rfl rfl
    · exact hsame rfl rfl
  | record _ hr =>
    rw [hr]
    rcases record_cases r _ _ with hr | ⟨folder, disk, -, -, hr⟩ <;> rw [hr] <;>
      exact hsame rfl rfl
  | dispatch _ hr =>
    rw [hr]
    rcases dispatch_cases r with hr | ⟨queue, hd, hr⟩ <;> rw [hr]
    · exact hsame rfl rfl
    · obtain ⟨id, job, later, -, rfl⟩ := Queue.dispatch_eq_some hd
      exact hsame rfl rfl
  | @advance id _ hr =>
    rw [hr]
    rcases advance_cases r id with hr | ⟨w, s', w', -, hadv, hr⟩ <;> rw [hr]
    · exact hsame rfl rfl
    refine ⟨fun _ he => Queue.mem_outcomes_update.2 (Or.inl he), fun halive => ⟨?_, ?_⟩⟩
    · rwa [Queue.update_alive] at halive
    · intro i hl
      rcases Queue.mem_outcomes_update.1 hl with hold | ⟨-, he⟩ | ⟨hdead, -⟩
      · exact Or.inl hold
      · cases he
      · exact absurd hdead hadv.ne_dead
  | @answer id answer hm hr =>
    rw [hr]
    rcases answerWorker_cases r id answer with
      hr | ⟨w, s', w', request, file, hrun, hreq, -, hrec, hr⟩ <;> rw [hr]
    · exact hsame rfl rfl
    refine ⟨fun _ he => Queue.mem_outcomes_update.2 (Or.inl he), fun halive => ⟨?_, ?_⟩⟩
    · rwa [Queue.update_alive] at halive
    · intro i hl
      rcases Queue.mem_outcomes_update.1 hl with hold | ⟨-, he⟩ | ⟨hdead, he⟩
      · exact Or.inl hold
      · cases he
      · -- only the answer that kills makes a worker dead
        obtain rfl : i = id := (Prod.mk.inj he).1
        right
        refine ⟨?_, w, request, hrun, hreq⟩
        by_cases hdeath : answer = .death
        · rw [hm, hdeath]
        · exact absurd hdead (hrec.ne_dead hdeath)
  | close _ hr =>
    rw [hr]
    refine ⟨fun _ he => List.mem_append_left _ he, fun halive => ?_⟩
    cases halive

end Relay

namespace History

variable {h : History} {i j : Nat} {id : JobId} {path : Path}

/-- The worker of a job dies in step `j`. -/
def DiesAt (h : History) (j : Nat) (id : JobId) : Prop :=
  ∃ m, h.steps[j]? = some m ∧ (h.after j).Dies m id

/-- A worker of a job with the folder has died before step `i`. -/
def Stranded (h : History) (i : Nat) (path : Path) : Prop :=
  ∃ j < i, ∃ id job, h.DiesAt j id ∧ (h.after j).queue.jobs[id]? = some job ∧
    path ∈ job.folders

/-- A worker can die only while its job is underway. -/
theorem job_of_death (hn : h.final.starts ≤ UInt64.size) (hd : h.DiesAt j id) :
    ∃ job, (h.after j).queue.jobs[id]? = some job := by
  obtain ⟨m, -, -, w, request, hrun, -⟩ := hd
  obtain ⟨job, ho, -⟩ := (ownership_after hn j).job_of_running hrun
  exact ⟨job, ho.1⟩

/-- The jobs of workers that have died are lost. -/
theorem lost_of_dies (hn : h.final.starts ≤ UInt64.size) (hd : h.DiesAt j id) (hij : j < i) :
    (id, .lost) ∈ (h.after i).queue.outcomes := by
  obtain ⟨m, hm, hdies⟩ := hd
  refine h.keeps (i := j + 1) (P := fun r => (id, Outcome.lost) ∈ r.queue.outcomes) ?_
    (fun _ hm' hl => (step_at hm').over.1 _ hl) hij
  rw [after_succ hm]
  exact Relay.lost_of_death (ownership_after hn j).queue hdies

/-- As long as the dispatcher is there, no other jobs are lost. -/
theorem dies_of_lost (halive : (h.after i).queue.alive = true)
    (hl : (id, .lost) ∈ (h.after i).queue.outcomes) : ∃ j < i, h.DiesAt j id := by
  refine h.keeps_from (i := 0) (P := fun i => (h.after i).queue.alive = true →
    (id, .lost) ∈ (h.after i).queue.outcomes → ∃ j < i, h.DiesAt j id) ?_ ?_ ?_ (Nat.zero_le i)
    halive hl
  · intro _ hl
    exact absurd hl List.not_mem_nil
  · intro i m _ hm ih halive hl
    obtain ⟨halive', hcases⟩ := (step_at hm).over.2 halive
    rcases hcases id hl with hold | hdies
    · obtain ⟨j, hj, hd⟩ := ih halive' hold
      exact ⟨j, Nat.lt_succ_of_lt hj, hd⟩
    · exact ⟨i, Nat.lt_succ_self i, m, hm, hdies⟩
  · intro i hm ih halive hl
    rw [after_succ_of_none hm] at halive hl
    obtain ⟨j, hj, hd⟩ := ih halive hl
    exact ⟨j, Nat.lt_succ_of_lt hj, hd⟩

/-- A folder of a worker that has died is a folder of a lost job. -/
theorem Stranded.isLost (hn : h.final.starts ≤ UInt64.size) (hs : h.Stranded i path) :
    ∃ id job, (h.after i).queue.IsLost id job ∧ path ∈ job.folders := by
  obtain ⟨j, hj, id, job, hd, hjob, hm⟩ := hs
  obtain ⟨later, hlater⟩ := h.jobs_prefix (Nat.le_of_lt hj)
  refine ⟨id, job, ⟨?_, lost_of_dies hn hd hj⟩, hm⟩
  rw [← hlater]
  exact Queue.getElem?_append_of_some hjob later

/-- As long as the dispatcher is there, the folders of lost jobs are those of dead workers. -/
theorem stranded_iff_isLost (hn : h.final.starts ≤ UInt64.size)
    (halive : (h.after i).queue.alive = true) :
    h.Stranded i path ↔ ∃ id job, (h.after i).queue.IsLost id job ∧ path ∈ job.folders := by
  constructor
  · exact fun hs => hs.isLost hn
  · rintro ⟨id, job, ⟨hjob, hl⟩, hm⟩
    obtain ⟨j, hj, hd⟩ := dies_of_lost halive hl
    obtain ⟨job', hjob'⟩ := job_of_death hn hd
    obtain ⟨later, hlater⟩ := h.jobs_prefix (Nat.le_of_lt hj)
    have hsame := Queue.getElem?_append_of_some hjob' later
    rw [hlater, hjob] at hsame
    obtain rfl := Option.some.inj hsame
    exact ⟨j, hj, id, job, hd, hjob', hm⟩

/-- What workers that have died leave behind, seen at a time when the queue is idle. -/
structure LeavesBehind (h : History) (i : Nat) : Prop where
  /-- The folders in processing are those of the workers that have died. -/
  processing : ∀ f ∈ h.folders i, f.state = .processing ↔ h.Stranded i f.path
  /-- They stay in processing for good, and no flush takes them. -/
  forever : ∀ path, h.Stranded i path → ∀ j, i ≤ j →
    (∃ f ∈ h.folders j, f.path = path ∧ f.state = .processing) ∧ path ∉ (h.jobAt j).folders
  /-- A flush takes what is recorded in any other folder, unless it is being recorded into.  A
  folder that is finished for good is left out; if the root suits, nothing is recorded in it. -/
  retried : ∀ f ∈ h.folders i, (h.after i).station.folders.active ≠ some f.path →
    f.state ≠ .finishedSuccessfully ∨ Disk.Suits h.options.root h.disk →
    ∀ file ∈ (h.after i).station.disk.recordingsIn f.path,
      file ∈ (h.jobAt i).files ↔ ¬ h.Stranded i f.path

/-- The folders of a worker that has died are in processing at any later time, and out of reach for
any flush. -/
theorem Stranded.forever (hn : h.final.starts ≤ UInt64.size) (hs : h.Stranded i path)
    (hij : i ≤ j) : (∃ f ∈ h.folders j, f.path = path ∧ f.state = .processing) ∧
      path ∉ (h.jobAt j).folders := by
  have hown := ownership_after hn j
  have hlater : h.Stranded j path := by
    obtain ⟨k, hk, hrest⟩ := hs
    exact ⟨k, Nat.lt_of_lt_of_le hk hij, hrest⟩
  obtain ⟨id, job, hl, hm⟩ := hlater.isLost hn
  have ho := hl.isOpen hown.queue
  exact ⟨hown.held id job ho path hm, fun hp => (hown.eligible_spec hp).2.2 id job ho hm⟩

/-- A recording is part of the next flush exactly if the flush takes its folder. -/
theorem flushed_iff (hn : h.final.starts ≤ UInt64.size) {f : Folder} (hf : f ∈ h.folders i)
    {file : Path} (hfile : file ∈ (h.after i).station.disk.recordingsIn f.path) :
    file ∈ (h.jobAt i).files ↔ (h.after i).station.folders.isEligible f = true := by
  have hown := ownership_after hn i
  constructor
  · intro hlisted
    obtain ⟨p, hp, hin⟩ := mem_recordings.1 hlisted
    obtain ⟨g, hg, he, rfl⟩ := (Ownership.mem_eligible _).1 hp
    obtain ⟨m, -, hfm⟩ := hown.session f hf
    obtain ⟨n, -, hgn⟩ := hown.session g hg
    rw [hfm] at hfile
    rw [hgn] at hin
    obtain rfl := session_of_recording hfile hin
    rwa [hown.unique hf hg (hfm.trans hgn.symm)]
  · intro he
    exact mem_recordings.2 ⟨f.path, (Ownership.mem_eligible _).2 ⟨f, hf, he, rfl⟩, hfile⟩

/-- Once no job waits or runs, exactly the folders of dead workers are stranded, and for good. -/
theorem dead_workers_leave_behind (h : History) (hn : h.final.starts ≤ UInt64.size) (i : Nat)
    (halive : (h.after i).queue.alive = true) (hwaiting : (h.after i).queue.waiting = [])
    (hrunning : (h.after i).queue.running = []) : h.LeavesBehind i := by
  have hown := ownership_after hn i
  have hprocessing : ∀ f ∈ h.folders i, f.state = .processing ↔ h.Stranded i f.path := by
    intro f hf
    rw [stranded_iff_isLost hn halive]
    exact hown.processing_iff hwaiting hrunning hf
  refine ⟨hprocessing, fun path hs j hij => hs.forever hn hij, ?_⟩
  intro f hf hidle hgood file hfile
  rw [flushed_iff hn hf hfile, ← hprocessing f hf]
  have hactive : (h.after i).station.folders.isActive f.path = false := by
    rw [← Bool.not_eq_true, hown.isActive_iff hf]
    exact hidle
  -- a folder with a recording in it is not finished for good
  have hstate : f.state ≠ .finishedSuccessfully := by
    rcases hgood with hne | hsuits
    · exact hne
    · intro hs
      have htidy := Relay.tidy_run h.settings h.recorder hsuits (h.steps.take i)
      have hempty := htidy.recordingsIn_eq_nil
        (Nat.le_trans (h.starts_le_final i) hn) hf hs
      have hnil : (h.after i).station.disk.recordingsIn f.path = [] := hempty
      rw [hnil] at hfile
      cases hfile
  simp [Registry.isEligible, hactive, hstate]

/-- A user's recording is about to be created on the backend when its worker dies. -/
def crashed : History := { sample with moves := Relay.sampleMoves.take 12 ++ [.answer 0 .death] }

/-- After the death nothing waits and nothing runs, and the dispatcher is there. -/
theorem crashed_idle : (crashed.after 13).queue.alive = true ∧
    (crashed.after 13).queue.waiting = [] ∧ (crashed.after 13).queue.running = [] := by
  refine ⟨?_, ?_, ?_⟩ <;> cbv

/-- The folder of the dead worker is stranded with its recording. -/
theorem dead_workers_leave_behind_sample : crashed.final.starts ≤ UInt64.size ∧
    ((crashed.after 13).queue.alive = true ∧ (crashed.after 13).queue.waiting = [] ∧
      (crashed.after 13).queue.running = []) ∧
    crashed.Stranded 13 ⟨["rec", "voice0"]⟩ := by
  have hn : crashed.final.starts ≤ UInt64.size :=
    Nat.le_trans crashed.starts_final_le (by decide)
  have hleft := crashed.dead_workers_leave_behind hn 13 crashed_idle.1 crashed_idle.2.1
    crashed_idle.2.2
  refine ⟨hn, crashed_idle, (hleft.processing ⟨⟨["rec", "voice0"]⟩, .processing⟩ ?_).1 rfl⟩
  rw [show crashed.folders 13 = [⟨⟨["rec", "voice0"]⟩, .processing⟩] by cbv]
  exact List.mem_singleton_self _

/-- A folder can be in processing although no job waits or runs. -/
theorem folder_left_in_processing : ¬ ∀ h : History, h.final.starts ≤ UInt64.size → ∀ i,
    (h.after i).queue.alive = true → (h.after i).queue.waiting = [] →
    (h.after i).queue.running = [] → ∀ f ∈ h.folders i, f.state ≠ .processing := by
  intro hall
  have hn : crashed.final.starts ≤ UInt64.size :=
    Nat.le_trans crashed.starts_final_le (by decide)
  refine hall crashed hn 13 crashed_idle.1 crashed_idle.2.1 crashed_idle.2.2
    ⟨⟨["rec", "voice0"]⟩, .processing⟩ ?_ rfl
  rw [show crashed.folders 13 = [⟨⟨["rec", "voice0"]⟩, .processing⟩] by cbv]
  exact List.mem_singleton_self _

end History

end PushToTalk
