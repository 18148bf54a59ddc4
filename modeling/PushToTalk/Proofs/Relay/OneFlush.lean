import PushToTalk.Proofs.Relay.GivenUp
import PushToTalk.Proofs.Relay.History

/-
  A flush that is run to completion by itself.

  Several results of this library are about one flush: which files it delivers, which folders it is
  done with, what it leaves.  They hold for a flush that nothing comes in between.  The queue is
  idle when the flush is made, and until the job of the flush is over no session begins or ends and
  no other flush is made.  Then there is one job at any time, and it waits, has a worker, or has
  reported back.  So what holds of the worker before its first step, and is kept by each of its
  steps until the last one, holds at its end; the other moves can be left out of the account, as
  they change nothing that uploads work on.

  `Account` is such an account: what holds while the worker is at work, and what holds of its
  report.  To use it one says what a step of the worker does and what an exchange does, and gets the
  whole run.

  1. **One job** — the three places where it can be (`Underway`).

  2. **Moves** — each of them keeps the account (`Alone.move`).  Recording may be allowed or not,
     which is what `records` is for: with it a session may still run while its folder is not part of
     the job.

  3. **Runs** — at the end the queue is idle again, so the job has reported back (`Account.run`).

  Main statement: `Account.run`.
-/

namespace PushToTalk

open Upload (Exchange Job JobId Outcome Queue Report Worker)

/-- Nobody begins or ends a session, records or flushes, and the dispatcher stays. -/
def Move.Undisturbing : Move → Prop
  | .setName .. | .speech .. | .sweep _ | .notify | .fetch | .tick .. => True
  | .dispatch | .advance _ | .answer .. => True
  | _ => False

/-- The dispatcher is there, and no job waits or runs. -/
structure Upload.Queue.Idle (q : Queue) : Prop where
  alive : q.alive = true
  waiting : q.waiting = []
  running : q.running = []

/-- What uploads work on, and what they have said so far. -/
structure Stores where
  cache : RetryCache
  folders : Registry
  disk : Disk
  exchanges : List Exchange

/-- What uploads work on, with a station in the place of the relay's own. -/
def Station.stores (s : Station) (exchanges : List Exchange) : Stores :=
  ⟨s.cache, s.folders, s.disk, exchanges⟩

namespace Relay

/-- What uploads work on. -/
def stores (r : Relay) : Stores := r.station.stores r.exchanges

variable {root : Path} {d₀ : Disk} {r r' : Relay} {m : Move} {id : JobId} {job : Job}
  {records : Prop} {Fair : Exchange → Prop} {During : Stores → Worker → Prop}
  {After : Stores → Report → Prop}

/-- A quiet change touches nothing that uploads work on. -/
theorem Quiet.stores (hq : Quiet r r') : r'.stores = r.stores := by
  unfold Relay.stores Station.stores
  rw [hq.cache, hq.folders, hq.disk, hq.exchanges]

/-! ## One job -/

/-- The queue has one job that is not over, or that was the last one to be over. -/
inductive Underway (id : JobId) (job : Job) (During : Stores → Worker → Prop)
    (After : Stores → Report → Prop) (r : Relay) : Prop
  /-- The job waits for its worker. -/
  | waits (hw : r.queue.waiting = [(id, job)]) (hr : r.queue.running = [])
      (h : During r.stores (Worker.start job.files job.folders job.pending))
  /-- The worker of the job is at work. -/
  | runs {w : Worker} (hw : r.queue.waiting = []) (hr : r.queue.running = [(id, w)])
      (h : During r.stores w)
  /-- The worker has reported back. -/
  | done {report : Report} (hw : r.queue.waiting = []) (hr : r.queue.running = [])
      (ho : (id, .reported report) ∈ r.queue.outcomes) (h : After r.stores report)

/-- What holds while the worker of the job is at work, and in the end.  Only the steps of the worker
matter, and what is recorded meanwhile, if `records`; exchanges are fair. -/
structure Account (root : Path) (d₀ : Disk) (id : JobId) (job : Job) (records : Prop)
    (Fair : Exchange → Prop) (During : Stores → Worker → Prop)
    (After : Stores → Report → Prop) : Prop where
  advance : ∀ {r : Relay} {w w' : Worker} {s' : Station}, Tidy root d₀ r →
    r.starts ≤ UInt64.size → (id, w) ∈ r.queue.running → w.Serves job → During r.stores w →
    Worker.Advances r.fetches.answer? r.station w s' w' →
    (w'.stage = .ended → After (s'.stores r.exchanges) w'.report) ∧
      (w'.stage ≠ .ended → During (s'.stores r.exchanges) w')
  receive : ∀ {r : Relay} {w w' : Worker} {s' : Station} {request : Request} {file : Path}
    {answer : Answer}, During r.stores w → w.stage.request? = some request →
    w.stage.file? = some file → Fair ⟨file, request, answer⟩ →
    Worker.Receives r.station w answer s' w' → w'.stage ≠ .dead ∧
      During (s'.stores (r.exchanges ++ [⟨file, request, answer⟩])) w'
  record : records → ∀ {r : Relay} (name : String) (node : Disk.Node), Tidy root d₀ r →
    r.starts ≤ UInt64.size → job ∈ r.queue.jobs →
    (∀ w, During r.stores w → During (r.record name node).stores w) ∧
      ∀ report, After r.stores report → After (r.record name node).stores report

/-- A course is as far where queue and stores are the same. -/
theorem Underway.congr (h : Underway id job During After r) (hq : r'.queue = r.queue)
    (hs : r'.stores = r.stores) : Underway id job During After r' := by
  cases h with
  | waits hw hr h => exact .waits (by rw [hq, hw]) (by rw [hq, hr]) (by rwa [hs])
  | runs hw hr h => exact .runs (by rw [hq, hw]) (by rw [hq, hr]) (by rwa [hs])
  | done hw hr ho h => exact .done (by rw [hq, hw]) (by rw [hq, hr]) (by rwa [hq]) (by rwa [hs])

/-- The job that waits is the one that gets a worker. -/
theorem Underway.dispatch (h : Underway id job During After r) :
    Underway id job During After r.dispatch := by
  rcases dispatch_cases r with he | ⟨queue, hd, he⟩
  · rwa [he]
  rw [he]
  obtain ⟨i, job', later, hwaiting, rfl⟩ := Queue.dispatch_eq_some hd
  cases h with
  | waits hw hr h =>
    rw [hw] at hwaiting
    obtain ⟨hsame, rfl⟩ := List.cons.inj hwaiting
    obtain ⟨rfl, rfl⟩ := Prod.mk.inj hsame
    exact .runs rfl (by simp [hr]) h
  | runs hw =>
    rw [hw] at hwaiting
    cases hwaiting
  | done hw =>
    rw [hw] at hwaiting
    cases hwaiting

/-- A worker that runs is that of the job. -/
theorem Underway.worker (h : Underway id job During After r) {i : JobId} {w : Worker}
    (hw : (i, w) ∈ r.queue.running) : i = id ∧ r.queue.waiting = [] ∧
      r.queue.running = [(id, w)] ∧ During r.stores w := by
  cases h with
  | waits _ hr =>
    rw [hr] at hw
    cases hw
  | runs hwaiting hr h =>
    rw [hr] at hw
    obtain ⟨rfl, rfl⟩ := Prod.mk.inj (List.mem_singleton.1 hw)
    exact ⟨rfl, hwaiting, hr, h⟩
  | done _ hr =>
    rw [hr] at hw
    cases hw

/-- After the worker moved it is at work, or has reported back. -/
theorem underway_update {q : Queue} {w w' : Worker} {r' : Relay} (hw : q.waiting = [])
    (hr : q.running = [(id, w)]) (hq : r'.queue = q.update id w') (hd : w'.stage ≠ .dead)
    (hend : w'.stage = .ended → After r'.stores w'.report)
    (hgoes : w'.stage ≠ .ended → During r'.stores w') :
    Underway id job During After r' := by
  have hwaiting : r'.queue.waiting = [] := by rw [hq, Queue.update_waiting, hw]
  by_cases he : w'.stage = .ended
  · refine .done hwaiting ?_ ?_ (hend he)
    · rw [hq]
      simp [Queue.update, he, hr]
    · rw [hq]
      exact Queue.mem_outcomes_update.2 (Or.inr (Or.inl ⟨he, rfl⟩))
  · refine .runs hwaiting ?_ (hgoes he)
    rw [hq]
    unfold Queue.update
    split
    · next hs => exact absurd hs he
    · next hs => exact absurd hs hd
    · simp [hr]

/-- A worker under the number of the job serves that job. -/
theorem Tidy.serves (h : Tidy root d₀ r) (hn : r.starts ≤ UInt64.size)
    (hj : r.queue.jobs[id]? = some job) {w : Worker} (hw : (id, w) ∈ r.queue.running) :
    w.Serves job := by
  obtain ⟨job', hj', hs⟩ := (h.ownership hn).serves _ hw
  rw [hj] at hj'
  rwa [Option.some.inj hj']

/-! ## Moves -/

/-- What a run of one flush keeps. -/
structure Alone (root : Path) (d₀ : Disk) (id : JobId) (job : Job)
    (During : Stores → Worker → Prop) (After : Stores → Report → Prop) (r : Relay) : Prop where
  tidy : Tidy root d₀ r
  few : r.starts ≤ UInt64.size
  submitted : r.queue.jobs[id]? = some job
  underway : Underway id job During After r

/-- A move keeps the account if it submits nothing, starts no session, and the job is in one of
the three places after it. -/
theorem Alone.next (h : Alone root d₀ id job During After r) (htidy : Tidy root d₀ r')
    (ht : r'.toggles = r.toggles) (hj : r'.queue.jobs = r.queue.jobs)
    (hu : Underway id job During After r') : Alone root d₀ id job During After r' :=
  ⟨htidy, starts_eq ht ▸ h.few, hj ▸ h.submitted, hu⟩

/-- Quiet moves keep it. -/
theorem Alone.quiet (h : Alone root d₀ id job During After r) (hq : Quiet r r')
    (htidy : Tidy root d₀ r') : Alone root d₀ id job During After r' :=
  h.next htidy hq.toggles (by rw [hq.queue]) (h.underway.congr hq.queue hq.stores)

/-- A step of the worker keeps it, by what the account says of steps. -/
theorem Alone.advance (hc : Account root d₀ id job records Fair During After)
    (h : Alone root d₀ id job During After r) (i : JobId) (htidy : Tidy root d₀ (r.advance i)) :
    Alone root d₀ id job During After (r.advance i) := by
  rcases advance_cases r i with he | ⟨w, s', w', hrun, hadv, he⟩
  · rwa [he]
  rw [he] at htidy ⊢
  refine h.next htidy rfl (Queue.update_jobs _ _ _) ?_
  obtain ⟨rfl, hw, hr, hduring⟩ := h.underway.worker hrun
  obtain ⟨hend, hgoes⟩ := hc.advance h.tidy h.few hrun
    (h.tidy.serves h.few h.submitted hrun) hduring hadv
  exact underway_update hw hr rfl hadv.ne_dead hend hgoes

/-- An exchange keeps it, by what the account says of exchanges, if it is fair. -/
theorem Alone.answerWorker (hc : Account root d₀ id job records Fair During After)
    (h : Alone root d₀ id job During After r) (i : JobId) (answer : Answer)
    (htidy : Tidy root d₀ (r.answerWorker i answer))
    (hfair : ∀ x ∈ (r.answerWorker i answer).exchanges.drop r.exchanges.length, Fair x) :
    Alone root d₀ id job During After (r.answerWorker i answer) := by
  rcases answerWorker_cases r i answer with
    he | ⟨w, s', w', request, file, hrun, hreq, hfile, hrec, he⟩
  · rwa [he]
  rw [he] at htidy hfair ⊢
  refine h.next htidy rfl (Queue.update_jobs _ _ _) ?_
  obtain ⟨rfl, hw, hr, hduring⟩ := h.underway.worker hrun
  -- the exchange that has just ended is the one that was added
  have hx : Fair ⟨file, request, answer⟩ := by
    refine hfair ⟨file, request, answer⟩ ?_
    show (⟨file, request, answer⟩ : Exchange) ∈
      List.drop r.exchanges.length (r.exchanges ++ [⟨file, request, answer⟩])
    rw [List.drop_left]
    exact List.mem_singleton_self _
  obtain ⟨hdead, hgoes⟩ := hc.receive hduring hreq hfile hx hrec
  exact underway_update hw hr rfl hdead (fun he => absurd he hrec.folders.1) fun _ => hgoes

/-- Recording keeps it, where the account allows for it. -/
theorem Alone.record (hc : Account root d₀ id job records Fair During After) (hrecords : records)
    (h : Alone root d₀ id job During After r) (name : String) (node : Disk.Node)
    (htidy : Tidy root d₀ (r.record name node)) :
    Alone root d₀ id job During After (r.record name node) := by
  have hqueue : (r.record name node).queue = r.queue := by
    rcases record_cases r name node with he | ⟨folder, disk, -, -, he⟩ <;> rw [he]
  refine h.next htidy (toggles_record r name node) (by rw [hqueue]) ?_
  obtain ⟨hduring, hafter⟩ :=
    hc.record hrecords name node h.tidy h.few (List.mem_of_getElem? h.submitted)
  cases h.underway with
  | waits hw hr hd => exact .waits (by rw [hqueue, hw]) (by rw [hqueue, hr]) (hduring _ hd)
  | runs hw hr hd => exact .runs (by rw [hqueue, hw]) (by rw [hqueue, hr]) (hduring _ hd)
  | done hw hr ho ha =>
    exact .done (by rw [hqueue, hw]) (by rw [hqueue, hr]) (by rwa [hqueue]) (hafter _ ha)

/-- Whatever happens besides the steps of the worker has no part in the course. -/
theorem Alone.move (hs : Disk.Suits root d₀)
    (hc : Account root d₀ id job records Fair During After)
    (h : Alone root d₀ id job During After r)
    (hm : m.Undisturbing ∨ records ∧ m.isRecord = true)
    (hfair : ∀ x ∈ (r.move m).exchanges.drop r.exchanges.length, Fair x) :
    Alone root d₀ id job During After (r.move m) := by
  have htidy : Tidy root d₀ (r.move m) := move_keeps (upholds_tidy hs m r) h.tidy
  cases m with
  | setName user name => exact h.quiet (quiet_setName r user name) htidy
  | speech user now => exact h.quiet (quiet_reportSpeech r user now) htidy
  | sweep now => exact h.quiet (quiet_sweep r now) htidy
  | notify => exact h.quiet (quiet_notify r) htidy
  | fetch => exact h.quiet (quiet_promote r) htidy
  | tick id answer => exact h.quiet (quiet_settleFetch r id answer) htidy
  | dispatch =>
    refine h.next htidy (toggles_dispatch r) ?_ h.underway.dispatch
    show r.dispatch.queue.jobs = r.queue.jobs
    rcases dispatch_cases r with he | ⟨queue, hd, he⟩ <;> rw [he]
    obtain ⟨i, job', later, -, rfl⟩ := Queue.dispatch_eq_some hd
    rfl
  | advance i => exact h.advance hc i htidy
  | answer i answer => exact h.answerWorker hc i answer htidy hfair
  | record name node =>
    rcases hm with hm | ⟨hrecords, -⟩
    · exact hm.elim
    · exact h.record hc hrecords name node htidy
  -- none of these comes in between
  | toggle | flush | flushIfStopped | poll | closeQueue =>
    rcases hm with hm | ⟨-, hm⟩ <;> cases hm

/-! ## Runs -/

/-- All moves together keep it. The induction is on the moves, and what was said by one of them
is among what was said by all. -/
theorem Alone.run (hs : Disk.Suits root d₀)
    (hc : Account root d₀ id job records Fair During After) {moves : List Move}
    (h : Alone root d₀ id job During After r)
    (hm : ∀ m ∈ moves, m.Undisturbing ∨ records ∧ m.isRecord = true)
    (hfair : ∀ x ∈ (r.run moves).exchanges.drop r.exchanges.length, Fair x) :
    Alone root d₀ id job During After (r.run moves) := by
  induction moves generalizing r with
  | nil => exact h
  | cons m later ih =>
    obtain ⟨hfirst, hlater⟩ := List.forall_mem_cons.1 hm
    have hmore := (exchanges_move r m).length_le
    refine ih (h.move hs hc hfirst fun x hx => hfair x ?_) hlater fun x hx => hfair x ?_
    · exact ((exchanges_run (r.move m) later).drop _).subset hx
    · exact (List.drop_sublist_drop_left _ hmore).subset hx

/-- The job of a flush is the only one of an idle queue. -/
theorem alone_flush (htidy : Tidy root d₀ r) (hn : r.starts ≤ UInt64.size) (hidle : r.queue.Idle)
    (hstart : During r.flush.1.stores
      (Worker.start r.flushJob.files r.flushJob.folders r.flushJob.pending)) :
    Alone root d₀ r.queue.jobs.length r.flushJob During After r.flush.1 := by
  refine ⟨htidy.flush, starts_eq (toggles_flush r) ▸ hn, ?_, .waits ?_ ?_ hstart⟩
  · rw [flush_of_alive hidle.alive]
    simp
  · rw [flush_of_alive hidle.alive]
    simp [hidle.waiting]
  · rw [flush_of_alive hidle.alive]
    exact hidle.running

/-- When a flush that nothing else comes in between is complete, there is a report, and what the
account says of it holds. -/
theorem Account.run (hs : Disk.Suits root d₀) {moves : List Move}
    (hc : Account root d₀ r.queue.jobs.length r.flushJob records Fair During After)
    (htidy : Tidy root d₀ r) (hn : r.starts ≤ UInt64.size) (hidle : r.queue.Idle)
    (hstart : During r.flush.1.stores
      (Worker.start r.flushJob.files r.flushJob.folders r.flushJob.pending))
    (hm : ∀ m ∈ moves, m.Undisturbing ∨ records ∧ m.isRecord = true)
    (hidle' : (r.run (.flush :: moves)).queue.Idle)
    (hfair : ∀ x ∈ (r.run (.flush :: moves)).exchanges.drop r.exchanges.length, Fair x) :
    Tidy root d₀ (r.run (.flush :: moves)) ∧ (r.run (.flush :: moves)).starts ≤ UInt64.size ∧
      ∃ report, (r.run (.flush :: moves)).queue.report? r.queue.jobs.length = some report ∧
        After (r.run (.flush :: moves)).stores report := by
  rw [← exchanges_flush r] at hfair
  have halone : Alone root d₀ r.queue.jobs.length r.flushJob During After
      (r.flush.1.run moves) := (alone_flush htidy hn hidle hstart).run hs hc hm hfair
  refine ⟨halone.tidy, halone.few, ?_⟩
  -- in an idle queue no job waits and none runs
  cases halone.underway with
  | waits hw =>
    have hnone := hidle'.waiting
    rw [show (r.run (.flush :: moves)).queue.waiting = _ from hw] at hnone
    cases hnone
  | runs _ hr =>
    have hnone := hidle'.running
    rw [show (r.run (.flush :: moves)).queue.running = _ from hr] at hnone
    cases hnone
  | @done report _ _ ho ha =>
    have hvalid := (halone.tidy.ownership halone.few).queue
    exact ⟨report, hvalid.report?_eq_some ho, ha⟩

end Relay

end PushToTalk
