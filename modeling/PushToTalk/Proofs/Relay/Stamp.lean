import PushToTalk.Proofs.Relay.Handover
import PushToTalk.Proofs.Upload.Tick

/-
  The ticks that recordings are filed under.

  A tick passes from a worker's delivery to the request that puts the file into the chat, or into
  the retry cache and from there to the delivery of a later pass.  On this way it is copied, and
  never computed anew.  So what holds of every tick that a worker newly files a recording under,
  holds of every tick in the cache and of every one that the backend is told.

  The statements are about any condition `P` on a file and a tick, given what was said before.  It
  is used with two conditions: that the tick has a source, which is a fetch of the file's user
  (`Relay.Source`), and that it is the one which the first flush with the file decided on
  (`Relay.FirstFlush`).

  1. **Everything comes from jobs** — `Staffed`: workers go by what their jobs say, and only files
     of jobs are remembered and talked about.  This is what a new tick is traced back to.

  2. **Ticks on their way** — `Stamped`: the three places where a tick can be, all of them with the
     condition.  It is kept by every step, if the ticks that a job gives are allowed.

  `P` may depend on what was said before, because a delivery changes which tick a later one may
  have; so it must not be lost when more is said, nor hang on how a path is spelled (`Steady`).

  Main statements: `upholds_stamped` and `staffed_after`.
-/

namespace PushToTalk

open Upload (Job JobId Queue Worker Exchange Stage Delivery)

namespace Upload

/-- The exchange has a file put into the chat. -/
def Exchange.Finalizes (x : Exchange) : Prop :=
  ∃ name topic fileId tick, x.request = finalizeRequest name topic fileId tick

/-- The query of the request that puts a file into the chat is the tick, as it stands. -/
theorem finalizeRequest_query (name topic fileId : String) (tick : TickData) :
    (finalizeRequest name topic fileId tick).query = tickQuery tick := by
  rw [← closing_eq]
  rfl

end Upload

namespace Relay

variable {known : FetchId → Option Answer} {r r' : Relay} {m : Move}

/-- Nothing has changed that the ticks of recordings depend on. -/
structure Still (r r' : Relay) : Prop where
  queue : r'.queue = r.queue
  cache : r'.station.cache = r.station.cache
  exchanges : r'.exchanges = r.exchanges

/-- A quiet change changes nothing that the ticks of recordings depend on. -/
theorem Quiet.still (h : Quiet r r') : Still r r' := ⟨h.queue, h.cache, h.exchanges⟩

/-- Recording changes nothing that the ticks of recordings depend on. -/
theorem still_record (r : Relay) (name : String) (node : Disk.Node) :
    Still r (r.record name node) := by
  rcases record_cases r name node with he | ⟨folder, disk, -, -, he⟩ <;> rw [he] <;>
    exact ⟨rfl, rfl, rfl⟩

/-! ## Everything comes from jobs -/

/-- The path is listed by a job, whichever way it is spelled. -/
def InJobs (jobs : List Job) (file : Path) : Prop :=
  ∃ job ∈ jobs, ∃ file' ∈ job.files, (file' == file) = true

/-- Workers go by what their jobs say, and only files of jobs are remembered and talked about. -/
structure Staffed (known : FetchId → Option Answer) (r : Relay) : Prop where
  waits : ∀ e ∈ r.queue.waiting, r.queue.jobs[e.1]? = some e.2
  informed : ∀ e ∈ r.queue.running, ∃ job, r.queue.jobs[e.1]? = some job ∧
    e.2.Informed known job
  cached : ∀ file tick, r.station.cache.get? file = some tick → InJobs r.queue.jobs file
  told : ∀ x ∈ r.exchanges, InJobs r.queue.jobs x.file

/-- What a worker has before it is listed by a job. -/
theorem Staffed.inJobs_ahead (h : Staffed known r) {e : JobId × Worker} (he : e ∈ r.queue.running)
    {file : Path} (hahead : file ∈ e.2.ahead) : InJobs r.queue.jobs file := by
  obtain ⟨job, hj, hi⟩ := h.informed e he
  exact ⟨job, List.mem_of_getElem? hj, file, hi.ahead file hahead, Path.beq_refl file⟩

/-- What changes none of this keeps it. -/
theorem Staffed.still (h : Staffed known r) (hs : Still r r') : Staffed known r' := by
  constructor
  · rw [hs.queue]
    exact h.waits
  · rw [hs.queue]
    exact h.informed
  · rw [hs.queue, hs.cache]
    exact h.cached
  · rw [hs.queue, hs.exchanges]
    exact h.told

/-- What a job lists is listed when more jobs come. -/
theorem InJobs.mono {jobs : List Job} {file : Path} (h : InJobs jobs file) (later : List Job) :
    InJobs (jobs ++ later) file := by
  obtain ⟨job, hj, hf⟩ := h
  exact ⟨job, List.mem_append_left _ hj, hf⟩

/-- A flush brings one job more, and no worker. -/
theorem Staffed.flush (h : Staffed known r) : Staffed known r.flush.1 := by
  rcases flush_cases r with ⟨queue, id, hs, he⟩ | he
  · rw [he]
    obtain ⟨-, rfl⟩ := Queue.submit_eq_ok hs
    constructor
    · intro e he
      rcases List.mem_append.1 he with hold | hnew
      · exact Queue.getElem?_append_of_some (h.waits e hold) _
      · obtain rfl := List.mem_singleton.1 hnew
        simp
    · intro e he
      obtain ⟨job, hj, hi⟩ := h.informed e he
      exact ⟨job, Queue.getElem?_append_of_some hj _, hi⟩
    · exact fun file tick hc => (h.cached file tick hc).mono _
    · exact fun x hx => (h.told x hx).mono _
  · rw [he]
    exact h.still ⟨rfl, rfl, rfl⟩

/-- A worker that is started knows what its job tells it. -/
theorem Staffed.dispatch (h : Staffed known r) : Staffed known r.dispatch := by
  rcases dispatch_cases r with he | ⟨queue, hd, he⟩
  · rwa [he]
  rw [he]
  obtain ⟨id, job, later, hw, rfl⟩ := Queue.dispatch_eq_some hd
  refine ⟨fun e he => h.waits e (hw ▸ List.mem_cons_of_mem _ he), fun e he => ?_, h.cached, h.told⟩
  rcases List.mem_append.1 he with hold | hnew
  · exact h.informed e hold
  · obtain rfl := List.mem_singleton.1 hnew
    have hjob := h.waits (id, job) (hw ▸ List.mem_cons_self)
    exact ⟨job, hjob, Worker.informed_start known job⟩

/-- A worker that moved is still informed by its job, and so is everyone else. -/
theorem Staffed.update (h : Staffed known r) {id : JobId} {w' : Worker} {job : Job}
    (hj : r.queue.jobs[id]? = some job) (hi : w'.Informed known job) :
    ∀ e ∈ (r.queue.update id w').running, ∃ job,
      (r.queue.update id w').jobs[e.1]? = some job ∧ e.2.Informed known job := by
  intro e he
  rw [Queue.update_jobs]
  rcases Queue.mem_running_update he with ⟨hold, -⟩ | rfl
  · exact h.informed e hold
  · exact ⟨job, hj, hi⟩

/-- What a worker has in hand is listed by its job. -/
theorem inJobs_of_delivers {job : Job} {jobs : List Job} {w : Worker} {d : Delivery}
    (hi : w.Informed known job) (hj : job ∈ jobs) (hd : w.stage.delivers? = some d) {file : Path}
    (hf : (d.file == file) = true) : InJobs jobs file :=
  ⟨job, hj, d.file, hi.ahead _ (Worker.mem_ahead_of_stage (Stage.file?_of_delivers hd)), hf⟩

/-- Remembering a delivery that is listed remembers nothing else. -/
theorem inJobs_put {cache : RetryCache} {jobs : List Job} {d : Delivery}
    (h : ∀ file tick, cache.get? file = some tick → InJobs jobs file)
    (hd : ∀ file, (d.file == file) = true → InJobs jobs file) {file : Path} {tick : TickData}
    (hc : (cache.put d.file d.tick).get? file = some tick) : InJobs jobs file := by
  rw [Table.get?_put] at hc
  split at hc
  · next hf => exact hd file hf
  · exact h file tick hc

/-- A step of a worker remembers at most the file that it has in hand. -/
theorem Staffed.advance (h : Staffed known r)
    (hle : ∀ id a, r.fetches.answer? id = some a → known id = some a) (id : JobId) :
    Staffed known (r.advance id) := by
  rcases advance_cases r id with he | ⟨w, s', w', hrun, hadv, he⟩
  · rwa [he]
  rw [he]
  obtain ⟨job, hj, hi⟩ := h.informed _ hrun
  -- the worker that moved is the one that could have become worse
  have hupdate := h.update hj (hi.advance hle hadv)
  constructor
  · show ∀ e ∈ (r.queue.update id w').waiting, (r.queue.update id w').jobs[e.1]? = some e.2
    rw [Queue.update_waiting, Queue.update_jobs]
    exact h.waits
  · exact hupdate
  · intro file tick hc
    show InJobs (r.queue.update id w').jobs file
    rw [Queue.update_jobs]
    rcases hadv.cache with hsame | ⟨d, hd, hput⟩
    · exact h.cached file tick (hsame ▸ hc)
    · exact inJobs_put h.cached (fun _ => inJobs_of_delivers hi (List.mem_of_getElem? hj) hd)
        (hput ▸ hc)
  · show ∀ x ∈ r.exchanges, InJobs (r.queue.update id w').jobs x.file
    rw [Queue.update_jobs]
    exact h.told

/-- After an exchange at most its file is newly remembered, and that lies before the worker. -/
theorem Staffed.answerWorker (h : Staffed known r) (id : JobId) (answer : Answer) :
    Staffed known (r.answerWorker id answer) := by
  rcases answerWorker_cases r id answer with
    he | ⟨w, s', w', request, file, hrun, -, hfile, hrec, he⟩
  · rwa [he]
  rw [he]
  obtain ⟨job, hj, hi⟩ := h.informed _ hrun
  have hupdate := h.update hj (hi.receive hrec)
  constructor
  · show ∀ e ∈ (r.queue.update id w').waiting, (r.queue.update id w').jobs[e.1]? = some e.2
    rw [Queue.update_waiting, Queue.update_jobs]
    exact h.waits
  · exact hupdate
  · intro file tick hc
    show InJobs (r.queue.update id w').jobs file
    rw [Queue.update_jobs]
    -- an exchange leaves the cache as it is, files its tick, or takes its file out
    rcases hrec.cache with hsame | ⟨d, hd, hput⟩ | ⟨d, -, herase⟩
    · exact h.cached file tick (hsame ▸ hc)
    · exact inJobs_put h.cached (fun _ => inJobs_of_delivers hi (List.mem_of_getElem? hj) hd)
        (hput ▸ hc)
    · have hc : (r.station.cache.erase d.file).get? file = some tick := herase ▸ hc
      rw [Table.get?_erase] at hc
      split at hc
      · cases hc
      · exact h.cached file tick hc
  · intro x hx
    show InJobs (r.queue.update id w').jobs x.file
    rw [Queue.update_jobs]
    rcases List.mem_append.1 hx with hold | hnew
    · exact h.told x hold
    · obtain rfl := List.mem_singleton.1 hnew
      exact h.inJobs_ahead hrun (Worker.mem_ahead_of_stage hfile)

/-- Every move keeps it, if the answers that are there by now are among those known. -/
theorem upholds_staffed (hle : ∀ id a, r.fetches.answer? id = some a → known id = some a)
    (m : Move) : Upholds (Staffed known) r m where
  quiet hq h := h.still hq.still
  start h := h.still ⟨rfl, rfl, rfl⟩
  stop h := h.still ⟨rfl, rfl, rfl⟩
  flush h := h.flush
  record _ h := h.still (still_record _ _ _)
  dispatch _ h := h.dispatch
  advance _ h := h.advance hle _
  answer _ h := h.answerWorker _ _
  close _ h := ⟨fun _ he => absurd he List.not_mem_nil, h.informed, h.cached, h.told⟩

/-! ## Ticks on their way -/

/-- Every tick that a recording is filed under is one that `P` allows for it, given what was said
before. -/
structure Stamped (P : List Exchange → Path → TickData → Prop) (r : Relay) : Prop where
  cached : ∀ file tick, r.station.cache.get? file = some tick → P r.exchanges file tick
  delivered : ∀ e ∈ r.queue.running, ∀ d, e.2.stage.delivers? = some d →
    P r.exchanges d.file d.tick
  told : ∀ before x after, r.exchanges = before ++ x :: after → x.Finalizes →
    ∃ tick, P before x.file tick ∧ x.request.query = Upload.tickQuery tick

/-- What is allowed goes by paths, not their spellings, and stays allowed. -/
structure Steady (P : List Exchange → Path → TickData → Prop) : Prop where
  same : ∀ {xs file file' tick}, (file == file') = true → P xs file tick → P xs file' tick
  later : ∀ {xs file tick} (x : Exchange), P xs file tick → P (xs ++ [x]) file tick

variable {P : List Exchange → Path → TickData → Prop}

/-- Where workers, cache and exchanges are the same, ticks are where they were. -/
theorem Stamped.congr (h : Stamped P r) (hq : r'.queue.running = r.queue.running)
    (hc : r'.station.cache = r.station.cache) (hx : r'.exchanges = r.exchanges) :
    Stamped P r' := by
  constructor
  · rw [hc, hx]
    exact h.cached
  · rw [hq, hx]
    exact h.delivered
  · rw [hx]
    exact h.told

/-- Ticks are where they were if nothing has changed that they depend on. -/
theorem Stamped.still (h : Stamped P r) (hs : Still r r') : Stamped P r' :=
  h.congr (by rw [hs.queue]) hs.cache hs.exchanges

/-- A flush has no worker and no exchange. -/
theorem Stamped.flush (h : Stamped P r) : Stamped P r.flush.1 := by
  rcases flush_cases r with ⟨queue, id, hs, he⟩ | he
  · rw [he]
    obtain ⟨-, rfl⟩ := Queue.submit_eq_ok hs
    exact h.congr rfl rfl rfl
  · rw [he]
    exact h.congr rfl rfl rfl

/-- A worker that is started has no delivery yet. -/
theorem Stamped.dispatch (h : Stamped P r) : Stamped P r.dispatch := by
  rcases dispatch_cases r with he | ⟨queue, hd, he⟩
  · rwa [he]
  rw [he]
  obtain ⟨id, job, later, -, rfl⟩ := Queue.dispatch_eq_some hd
  refine ⟨h.cached, fun e he d hdel => ?_, h.told⟩
  rcases List.mem_append.1 he with hold | hnew
  · exact h.delivered e hold d hdel
  · obtain rfl := List.mem_singleton.1 hnew
    cases hdel

/-- Remembering an allowed tick leaves only allowed ones in the cache. -/
theorem stamped_put {cache : RetryCache} {xs : List Exchange} (hP : Steady P) {d : Delivery}
    (h : ∀ file tick, cache.get? file = some tick → P xs file tick) (hd : P xs d.file d.tick)
    {file : Path} {tick : TickData} (hc : (cache.put d.file d.tick).get? file = some tick) :
    P xs file tick := by
  rw [Table.get?_put] at hc
  split at hc
  · next hf =>
    obtain rfl := Option.some.inj hc
    exact hP.same hf hd
  · exact h file tick hc

/-- A worker's own step files recordings under allowed ticks, if those are allowed that the
requests of its job give for a file that it begins and that none is remembered for. -/
theorem Stamped.advance (hP : Steady P) (hstaff : Staffed known r) (h : Stamped P r)
    (hle : ∀ id a, r.fetches.answer? id = some a → known id = some a) {id : JobId}
    (hnew : ∀ w job d, (id, w) ∈ r.queue.running → r.queue.jobs[id]? = some job →
      Delivery.file d ∈ w.ahead → job.Gives known d.file d.tick →
      (r.station.cache.get? d.file = none ∨
        ∃ user request, w.stage = .awaiting d.file user request) →
      P r.exchanges d.file d.tick) : Stamped P (r.advance id) := by
  rcases advance_cases r id with he | ⟨w, s', w', hrun, hadv, he⟩
  · rwa [he]
  rw [he]
  refine ⟨fun file tick hc => ?_, fun e he d hd => ?_, h.told⟩
  · rcases hadv.cache with hsame | ⟨d, hd, hput⟩
    · exact h.cached file tick (hsame ▸ hc)
    · exact stamped_put hP h.cached (h.delivered _ hrun d hd) (hput ▸ hc)
  · rcases Queue.mem_running_update he with ⟨hold, -⟩ | rfl
    · exact h.delivered e hold d hd
    · obtain ⟨job, hj, hi⟩ := hstaff.informed _ hrun
      -- the delivery was there before, has its tick from the cache, or is new
      rcases hi.delivers hle hadv hd with hd | hc | ⟨hahead, hgives, hfresh⟩
      · exact h.delivered _ hrun d hd
      · exact h.cached _ _ hc
      · exact hnew w job d hrun hj hahead hgives hfresh

/-- What an exchange says and leaves behind is the tick of the delivery that it is about. -/
theorem Stamped.answerWorker (hP : Steady P) (h : Stamped P r) (id : JobId) (answer : Answer) :
    Stamped P (r.answerWorker id answer) := by
  rcases answerWorker_cases r id answer with
    he | ⟨w, s', w', request, file, hrun, hreq, hfile, hrec, he⟩
  · rwa [he]
  rw [he]
  have hlater : ∀ {file tick}, P r.exchanges file tick →
      P (r.exchanges ++ [⟨file, request, answer⟩]) file tick := hP.later _
  refine ⟨fun file tick hc => ?_, fun e he d hd => ?_, fun before x after hx hfin => ?_⟩
  · refine hP.later _ ?_
    rcases hrec.cache with hsame | ⟨d, hd, hput⟩ | ⟨d, -, herase⟩
    · exact h.cached file tick (hsame ▸ hc)
    · exact stamped_put hP h.cached (h.delivered _ hrun d hd) (hput ▸ hc)
    · have hc : (r.station.cache.erase d.file).get? file = some tick := herase ▸ hc
      rw [Table.get?_erase] at hc
      split at hc
      · cases hc
      · exact h.cached file tick hc
  · refine hP.later _ ?_
    rcases Queue.mem_running_update he with ⟨hold, -⟩ | rfl
    · exact h.delivered e hold d hd
    · exact h.delivered _ hrun d (hrec.delivers hd)
  · rcases List.eq_nil_or_concat after with rfl | ⟨init, last, rfl⟩
    · -- the exchange that has just ended
      obtain ⟨rfl, hlast⟩ := List.append_inj' hx rfl
      obtain rfl := (List.cons.inj hlast).1
      obtain ⟨name, topic, fileId, tick, hrequest⟩ := hfin
      obtain ⟨d, fileId', topic', hs⟩ := Stage.finalizing_of_request
        (hreq.trans (congrArg some hrequest))
      rw [hs] at hreq hfile
      obtain rfl := Option.some.inj hreq
      obtain rfl := Option.some.inj hfile
      refine ⟨d.tick, h.delivered _ hrun d (by rw [hs]; rfl), ?_⟩
      exact Upload.finalizeRequest_query _ _ _ _
    · have hold : r.exchanges = before ++ x :: init := by
        rw [List.concat_eq_append, ← List.cons_append, ← List.append_assoc] at hx
        exact (List.append_inj' hx rfl).1
      exact h.told before x init hold hfin

/-- Every step files recordings under allowed ticks, if those are allowed that the requests of a
job give. -/
theorem upholds_stamped (hP : Steady P) (hstaff : Staffed known r)
    (hle : ∀ id a, r.fetches.answer? id = some a → known id = some a)
    (hnew : ∀ job ∈ r.queue.jobs, ∀ file ∈ job.files, ∀ tick, job.Gives known file tick →
      P r.exchanges file tick) (m : Move) : Upholds (Stamped P) r m where
  quiet hq h := h.still hq.still
  start h := h.still ⟨rfl, rfl, rfl⟩
  stop h := h.still ⟨rfl, rfl, rfl⟩
  flush h := h.flush
  record _ h := h.still (still_record _ _ _)
  dispatch _ h := h.dispatch
  advance _ h := h.advance hP hstaff hle fun w job d hrun hj hahead hgives _ => by
    obtain ⟨job', hj', hi⟩ := hstaff.informed _ hrun
    obtain rfl : job' = job := Option.some.inj (hj'.symm.trans hj)
    exact hnew job' (List.mem_of_getElem? hj) _ (hi.ahead _ hahead) _ hgives
  answer _ h := h.answerWorker hP _ _
  close _ h := h.congr rfl rfl rfl

theorem stamped_startOn (P : List Exchange → Path → TickData → Prop) (disk : Disk)
    (options : Options) (settings : Settings) (recorder : Recorder) :
    Stamped P (startOn disk options settings recorder) where
  cached _ _ hc := by cases hc
  delivered _ he := absurd he List.not_mem_nil
  told before x after hx := absurd hx (by simp [startOn, start])

end Relay

namespace History

/-- Through all of a history everything comes from jobs. -/
theorem staffed_after (h : History) (i : Nat) :
    (h.after i).Staffed h.final.fetches.answer? := by
  refine h.upheld ⟨?_, ?_, ?_, ?_⟩ (fun i m _ => Relay.upholds_staffed (fun _ _ => answer_final) m) i
  · exact fun _ he => absurd he List.not_mem_nil
  · exact fun _ he => absurd he List.not_mem_nil
  · exact fun _ _ hc => by cases hc
  · exact fun _ hx => absurd hx List.not_mem_nil

end History

end PushToTalk
