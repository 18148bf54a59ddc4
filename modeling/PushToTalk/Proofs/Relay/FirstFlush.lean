import Mathlib
import PushToTalk.Proofs.Relay.Session
import PushToTalk.Proofs.Relay.Stamp

/-
  The first flush that hands out a recording decides its tick.

  When a recording is put into the chat, it is under a tick that was fetched for its user.  By that
  time its user may have spoken again and again, and the recording may have failed several times.
  Which of the fetches counts is decided once, by the first flush that lists the recording.  A flush
  takes all tick requests, and the worker of its job goes by these.  Whatever it cannot deliver it
  leaves in the cache, under the tick that the requests gave, and every later try has the tick from
  there.

  1. **`Tracked`** follows one recording from that flush on: as long as there is no verdict on it,
     it is in the cache, or its first job still has it to handle.  The difficulty is in the second
     case, where a tick may still be computed: no other worker may have the file before it then
     (`Tracked.only`), and no other may be waiting for its tick.

  2. **`Decided`** is the condition on ticks that is carried along by `Relay.Stamp`: up to the
     verdict the tick is one that the requests of the first job give.  Neither can be shown without
     the other, so the step lemma is about both (`Step.tracked`).

  3. **From the flush on** — before the flush no job lists the file, so the cache and the exchanges
     know nothing of it (`stamped_of_fresh`), and with the flush it is on its way (`tracked_flush`).

  4. **The session that runs** — a flush takes its requests as well, though not its folder.  So its
     recording finds no request at the next flush, and goes into the chat without a tick although
     one was fetched (`request_of_running_session_taken`).

  After the verdict nothing is said: if the file comes back under its name, it is another recording.

  Main statements: `first_flush_decides` and `request_of_running_session_taken`.
-/

namespace PushToTalk

open Upload (Job JobId Queue Worker Exchange Delivery)

namespace Relay

variable {known : FetchId → Option Answer} {r r' : Relay} {m : Move} {root : Path} {n : Nat}
  {job : Job} {id : JobId} {file : Path} {user : UserId}

/-- There is a verdict on the file. -/
def Judged (xs : List Exchange) (file : Path) : Prop := ∃ x ∈ xs, x.IsVerdict ∧ x.file = file

/-- The first of the verdicts on a file. -/
theorem Judged.first {xs : List Exchange} (h : Judged xs file) :
    ∃ before x after, xs = before ++ x :: after ∧ x.IsVerdict ∧ x.file = file ∧
      ¬ Judged before file := by
  induction xs with
  | nil =>
    obtain ⟨x, hx, -⟩ := h
    exact absurd hx List.not_mem_nil
  | cons y later ih =>
    -- either this is the first verdict, or the first one comes later
    by_cases hy : y.IsVerdict ∧ y.file = file
    · refine ⟨[], y, later, rfl, hy.1, hy.2, ?_⟩
      rintro ⟨x, hx, -⟩
      exact absurd hx List.not_mem_nil
    · obtain ⟨x, hx, hv⟩ := h
      have hlater : x ∈ later := by
        rcases List.mem_cons.1 hx with rfl | hlater
        · exact absurd hv hy
        · exact hlater
      obtain ⟨before, x, after, rfl, hverdict, hfile, hnone⟩ := ih ⟨x, hlater, hv⟩
      refine ⟨y :: before, x, after, rfl, hverdict, hfile, ?_⟩
      rintro ⟨z, hz, hzv⟩
      rcases List.mem_cons.1 hz with rfl | hz
      · exact hy hzv
      · exact hnone ⟨z, hz, hzv⟩

/-- A verdict stays when more is said. -/
theorem Judged.mono {xs : List Exchange} (h : Judged xs file) (later : List Exchange) :
    Judged (xs ++ later) file := by
  obtain ⟨x, hx, hv⟩ := h
  exact ⟨x, List.mem_append_left _ hx, hv⟩

/-- A file is filed under the tick that the requests of its first job give, up to the verdict. -/
def Decided (known : FetchId → Option Answer) (job : Job) (file : Path) (xs : List Exchange)
    (file' : Path) (tick : TickData) : Prop :=
  (file' == file) = true → Judged xs file ∨ job.Gives known file tick

/-- The condition does not hang on the spelling of the path, and is kept when more is said. -/
theorem steady_decided (known : FetchId → Option Answer) (job : Job) (file : Path) :
    Steady (Decided known job file) where
  same he hp hf := hp (BEq.trans he hf)
  later _ hp hf := (hp hf).imp_left fun hj => hj.mono _

/-- A recording on its way from its first job to the verdict on it. -/
structure Tracked (job : Job) (id : JobId) (file : Path) (r : Relay) : Prop where
  /-- One that is not in the cache is still to be handled by its first job. -/
  unhandled : ¬ Judged r.exchanges file → r.station.cache.get? file = none →
    r.queue.IsOpen id job ∧ ∀ w, (id, w) ∈ r.queue.running → file ∈ w.ahead
  /-- Only its first job ever waits for its tick. -/
  awaits : ¬ Judged r.exchanges file → ∀ id' w user request, (id', w) ∈ r.queue.running →
    w.stage = .awaiting file user request → id' = id
  /-- Only one with a verdict is deleted. -/
  cleared : ∀ e ∈ r.queue.running, e.2.stage.clears? = some file → Judged r.exchanges file

/-- A step that leaves queue, cache and exchanges alone leaves a recording on its way. -/
theorem Tracked.still (h : Tracked job id file r) (hs : Still r r') : Tracked job id file r' := by
  constructor
  · rw [hs.queue, hs.cache, hs.exchanges]
    exact h.unhandled
  · rw [hs.queue, hs.exchanges]
    exact h.awaits
  · rw [hs.queue, hs.exchanges]
    exact h.cleared

/-- A later flush may list the recording again; its first job stays open. -/
theorem Tracked.flush (hv : r.queue.Valid) (h : Tracked job id file r) :
    Tracked job id file r.flush.1 := by
  rcases flush_cases r with ⟨queue, id', hs, he⟩ | he
  · have hopen := @Queue.isOpen_submit r.queue hv _ queue id' hs
    rw [he]
    obtain ⟨-, rfl⟩ := Queue.submit_eq_ok hs
    refine ⟨fun hj hc => ?_, h.awaits, h.cleared⟩
    obtain ⟨ho, hahead⟩ := h.unhandled hj hc
    exact ⟨hopen.2 (Or.inl ho), hahead⟩
  · rw [he]
    exact h.still ⟨rfl, rfl, rfl⟩

/-- A worker that is started has all files of its job before it. -/
theorem Tracked.dispatch (hstaff : Staffed known r) (hfile : file ∈ job.files)
    (h : Tracked job id file r) : Tracked job id file r.dispatch := by
  rcases dispatch_cases r with he | ⟨queue, hd, he⟩
  · rwa [he]
  rw [he]
  obtain ⟨id', job', later, hw, rfl⟩ := Queue.dispatch_eq_some hd
  refine ⟨fun hj hc => ?_, fun hj id'' w user request hrun hs => ?_, fun e he hc => ?_⟩
  · obtain ⟨ho, hahead⟩ := h.unhandled hj hc
    refine ⟨ho, fun w hrun => ?_⟩
    rcases List.mem_append.1 hrun with hold | hnew
    · exact hahead w hold
    · obtain ⟨rfl, rfl⟩ := Prod.mk.inj (List.mem_singleton.1 hnew)
      -- the job that is started is the one of its number
      have hwaits := hstaff.waits (id, job') (hw ▸ List.mem_cons_self)
      obtain rfl : job = job' := Option.some.inj (ho.1.symm.trans hwaits)
      exact hfile
  · rcases List.mem_append.1 hrun with hold | hnew
    · exact h.awaits hj id'' w user request hold hs
    · obtain ⟨-, rfl⟩ := Prod.mk.inj (List.mem_singleton.1 hnew)
      cases hs
  · rcases List.mem_append.1 he with hold | hnew
    · exact h.cleared e hold hc
    · obtain rfl := List.mem_singleton.1 hnew
      cases hc

section Moving

variable (hown : Ownership root n r.station.folders r.queue) (hu : UserId.ofPath file = .ok user)
  (hjob : job ∈ r.queue.jobs) (hfile : file ∈ job.files)
include hown hfile

/-- While a recording is not in the cache, no other worker has it before it. -/
theorem Tracked.only (h : Tracked job id file r) (hj : ¬ Judged r.exchanges file)
    (hc : r.station.cache.get? file = none) {id' : JobId} {w : Worker}
    (hrun : (id', w) ∈ r.queue.running) (hahead : file ∈ w.ahead) : id' = id := by
  obtain ⟨ho, -⟩ := h.unhandled hj hc
  obtain ⟨job', ho', hserves, -⟩ := hown.job_of_running hrun
  exact hown.same_job ho' ho (hserves.files file hahead) hfile (Path.beq_refl file)

include hu

/-- A worker that makes a step leaves the recording ahead of its first job, or in the cache. -/
theorem Tracked.advance (h : Tracked job id file r) (id' : JobId) :
    Tracked job id file (r.advance id') := by
  rcases advance_cases r id' with he | ⟨w, s', w', hrun, hadv, he⟩
  · rwa [he]
  rw [he]
  constructor
  · intro hj hc
    obtain ⟨ho, hahead⟩ := h.unhandled hj (hadv.none_before hc)
    constructor
    · -- a worker that ends has no files before it any more, so its job is another one
      by_cases hend : w'.stage = .ended
      · refine (Queue.isOpen_ended hend).2 ⟨ho, ?_⟩
        rintro rfl
        have hmem := hahead w hrun
        rw [hadv.ahead_of_ended hend] at hmem
        exact absurd hmem List.not_mem_nil
      · exact (Queue.isOpen_update hend).2 ho
    · intro v hv
      rcases Queue.mem_running_update hv with ⟨hold, -⟩ | heq
      · exact hahead v hold
      · obtain ⟨rfl, rfl⟩ := Prod.mk.inj heq
        exact hadv.still_ahead (hahead w hrun) hu hc fun hclears =>
          hj (h.cleared _ hrun hclears)
  · intro hj id'' v user request hrun' hs
    rcases Queue.mem_running_update hrun' with ⟨hold, -⟩ | heq
    · exact h.awaits hj id'' v user request hold hs
    · obtain ⟨rfl, rfl⟩ := Prod.mk.inj heq
      obtain ⟨hahead, hc, -, -⟩ := hadv.awaits hs
      exact h.only hown hfile hj hc hrun hahead
  · intro e he hc
    rcases Queue.mem_running_update he with ⟨hold, -⟩ | rfl
    · exact h.cleared e hold hc
    · have hnone : w'.stage.clears? = none := hadv.clears
      rw [hnone] at hc
      cases hc

omit hu
include hjob

/-- An answer ends in a verdict on the recording, in the cache, or in the next exchange about it. -/
theorem Tracked.answerWorker (h : Tracked job id file r) (id' : JobId) (answer : Answer) :
    Tracked job id file (r.answerWorker id' answer) := by
  rcases answerWorker_cases r id' answer with
    he | ⟨w, s', w', request, file', hrun, hreq, hfile', hrec, he⟩
  · rwa [he]
  rw [he]
  have hclears : w'.stage.clears? = some file →
      Judged (r.exchanges ++ [⟨file', request, answer⟩]) file := fun hc => by
    obtain ⟨hf, hv⟩ := hrec.verdict_of_clears hreq hc
    obtain rfl : file' = file := Option.some.inj (hfile'.symm.trans hf)
    exact ⟨_, List.mem_append_right _ (List.mem_singleton_self _), hv, rfl⟩
  constructor
  · intro hj hc
    have hbefore : r.station.cache.get? file = none := by
      rcases hrec.none_before hc with hc | ⟨d, hd, hsame⟩
      · exact hc
      · -- the verdict would be on this very file
        obtain ⟨hf, -⟩ := hrec.verdict_of_clears hreq hd
        obtain ⟨job', ho', hserves, -⟩ := hown.job_of_running hrun
        obtain ⟨heq, -⟩ := hown.same_folder (List.mem_of_getElem? ho'.1) hjob
          (hserves.files _ (Worker.mem_ahead_of_stage hf)) hfile hsame
        rw [heq] at hd
        exact absurd (hclears hd) hj
    obtain ⟨ho, hahead⟩ := h.unhandled (fun hj' => hj (hj'.mono _)) hbefore
    refine ⟨(Queue.isOpen_update hrec.folders.1).2 ho, fun v hv => ?_⟩
    rcases Queue.mem_running_update hv with ⟨hold, -⟩ | heq
    · exact hahead v hold
    · obtain ⟨rfl, rfl⟩ := Prod.mk.inj heq
      exact hrec.still_ahead (hahead w hrun) hc (Queue.goes_on hv).2
  · intro hj id'' v user request hrun' hs
    rcases Queue.mem_running_update hrun' with ⟨hold, -⟩ | heq
    · exact h.awaits (fun hj' => hj (hj'.mono _)) id'' v user request hold hs
    · obtain ⟨-, rfl⟩ := Prod.mk.inj heq
      exact absurd hs (hrec.ne_awaiting file user request)
  · intro e he hc
    rcases Queue.mem_running_update he with ⟨hold, -⟩ | rfl
    · exact (h.cleared e hold hc).mono _
    · exact hclears hc

end Moving

/-! ## From the flush on -/

/-- While a recording is on its way, whatever newly files it under a tick is its first job. -/
theorem Tracked.decides (hown : Ownership root n r.station.folders r.queue)
    (hstaff : Staffed known r) (hj : r.queue.jobs[id]? = some job) (hfile : file ∈ job.files)
    (h : Tracked job id file r) {id' : JobId} {w : Worker} {job' : Job} {d : Delivery}
    (hrun : (id', w) ∈ r.queue.running) (hj' : r.queue.jobs[id']? = some job')
    (hahead : d.file ∈ w.ahead) (hgives : job'.Gives known d.file d.tick)
    (hfresh : r.station.cache.get? d.file = none ∨
      ∃ user request, w.stage = .awaiting d.file user request) :
    Decided known job file r.exchanges d.file d.tick := by
  intro he
  obtain ⟨job'', hj'', hi⟩ := hstaff.informed _ hrun
  obtain rfl : job'' = job' := Option.some.inj (hj''.symm.trans hj')
  obtain ⟨hsame, -⟩ := hown.same_folder (List.mem_of_getElem? hj') (List.mem_of_getElem? hj)
    (hi.ahead _ hahead) hfile he
  rw [hsame] at hahead hgives hfresh
  -- after a verdict there is nothing to be decided
  by_cases hjudged : Judged r.exchanges file
  · exact Or.inl hjudged
  · have hid : id' = id := by
      rcases hfresh with hc | ⟨user, request, hs⟩
      · exact h.only hown hfile hjudged hc hrun hahead
      · exact h.awaits hjudged id' w user request hrun hs
    obtain rfl : job'' = job := Option.some.inj (by rw [← hj', hid, hj])
    exact Or.inr hgives

/-- Every step keeps a recording on its way, and filed under the tick that its first job gives. -/
theorem Step.tracked (hs : r.Step m r') (hown : Ownership root n r.station.folders r.queue)
    (hstaff : Staffed known r) (hle : ∀ id a, r.fetches.answer? id = some a → known id = some a)
    (hj : r.queue.jobs[id]? = some job) (hfile : file ∈ job.files)
    (hu : UserId.ofPath file = .ok user)
    (h : Tracked job id file r ∧ Stamped (Decided known job file) r) :
    Tracked job id file r' ∧ Stamped (Decided known job file) r' := by
  have steady := steady_decided known job file
  have hstill : ∀ {r₀ r₁ : Relay}, Tracked job id file r₀ ∧ Stamped (Decided known job file) r₀ →
      Still r₀ r₁ → Tracked job id file r₁ ∧ Stamped (Decided known job file) r₁ :=
    fun h hs => ⟨h.1.still hs, h.2.still hs⟩
  -- queue, cache and exchanges are changed by flushes, starts of workers, workers, and the end of
  -- the dispatcher only
  cases hs with
  | quiet _ _ hq => exact hstill h hq.still
  | start _ _ he | stop _ _ he =>
    rw [he]
    exact hstill h ⟨rfl, rfl, rfl⟩
  | flush _ hq => exact hstill ⟨h.1.flush hown.queue, h.2.flush⟩ hq.still
  | record _ he =>
    rw [he]
    exact hstill h (still_record _ _ _)
  | dispatch _ he =>
    rw [he]
    exact ⟨h.1.dispatch hstaff hfile, h.2.dispatch⟩
  | advance _ he =>
    rw [he]
    exact ⟨h.1.advance hown hu hfile _, h.2.advance steady hstaff hle
      fun w job' d hrun hj' => h.1.decides hown hstaff hj hfile hrun hj'⟩
  | answer _ he =>
    rw [he]
    exact ⟨h.1.answerWorker hown (List.mem_of_getElem? hj) hfile _ _, h.2.answerWorker steady _ _⟩
  | close _ he =>
    rw [he]
    refine ⟨⟨fun hjudged hc => ?_, h.1.awaits, h.1.cleared⟩, h.2.congr rfl rfl rfl⟩
    obtain ⟨ho, hahead⟩ := h.1.unhandled hjudged hc
    exact ⟨Queue.isOpen_kill.2 ho, hahead⟩

section Fresh

variable (hstaff : Staffed known r) (hnone : ¬ InJobs r.queue.jobs file)
include hstaff hnone

/-- A recording that no job lists has not been filed under any tick. -/
theorem stamped_of_fresh (job : Job) : Stamped (Decided known job file) r := by
  have hvacuous : ∀ {xs file' tick}, InJobs r.queue.jobs file' →
      Decided known job file xs file' tick := by
    rintro xs file' tick ⟨job', hj, listed, hlisted, hsame⟩ he
    exact absurd ⟨job', hj, listed, hlisted, BEq.trans hsame he⟩ hnone
  constructor
  · intro file' tick hc
    exact hvacuous (hstaff.cached file' tick hc)
  · intro e he d hd
    have hf : e.2.stage.file? = some d.file := Upload.Stage.file?_of_delivers hd
    exact hvacuous (hstaff.inJobs_ahead he (Worker.mem_ahead_of_stage hf))
  · rintro before x after hx ⟨name, topic, fileId, tick, hrequest⟩
    have hmem : x ∈ r.exchanges := hx ▸ List.mem_append_right _ List.mem_cons_self
    refine ⟨tick, hvacuous (hstaff.told x hmem), ?_⟩
    rw [hrequest]
    exact Upload.finalizeRequest_query _ _ _ _

/-- A flush that the queue takes sets a recording on its way which no job had before. -/
theorem tracked_flush (hv : r.queue.Valid) (halive : r.queue.alive = true) :
    Tracked r.flushJob r.queue.jobs.length file r.flush.1 := by
  have hahead : ∀ e ∈ r.queue.running, file ∉ e.2.ahead := fun e he hahead =>
    hnone (hstaff.inJobs_ahead he hahead)
  have hsubmit := Queue.submit_of_alive halive r.flushJob
  rw [flush_of_alive halive]
  constructor
  · intro _ _
    refine ⟨(Queue.isOpen_submit hv hsubmit).2 (Or.inr ⟨rfl, rfl⟩), fun w hrun => ?_⟩
    -- no worker has a number that was not given out
    obtain ⟨job, hj, -⟩ := hstaff.informed _ hrun
    obtain ⟨hlt, -⟩ := List.getElem?_eq_some_iff.1 hj
    exact absurd hlt (Nat.lt_irrefl _)
  · intro _ id' w user request hrun hs
    exact absurd (Worker.mem_ahead_of_stage (by rw [hs]; rfl)) (hahead _ hrun)
  · intro e he hc
    have hf : e.2.stage.file? = some file := Upload.Stage.file?_of_clears hc
    exact absurd (Worker.mem_ahead_of_stage hf) (hahead e he)

end Fresh

end Relay

namespace History

variable {h : History} {j : Nat} {file : Path} {user : UserId}

/-- The tick of a recording is what the requests give that the flush in step `j` handed over. -/
structure DecidesTick (h : History) (j : Nat) (file : Path) : Prop where
  /-- Up to the verdict the recording is put into the chat with this tick. -/
  told : ∀ before x after, h.final.exchanges = before ++ x :: after → x.Finalizes →
    x.file = file → ¬ Relay.Judged before file →
    ∃ tick, (h.jobAt j).Gives h.final.fetches.answer? file tick ∧
      x.request.query = Upload.tickQuery tick
  /-- Up to the verdict it is remembered with this tick. -/
  cached : ¬ Relay.Judged h.final.exchanges file →
    ∀ tick, h.final.station.cache.get? file = some tick →
      (h.jobAt j).Gives h.final.fetches.answer? file tick
  /-- When the worker of the flush has reported, one or the other has come about. -/
  handled : ∀ report,
    ((h.after j).queue.jobs.length, .reported report) ∈ h.final.queue.outcomes →
    ∃ tick, (h.jobAt j).Gives h.final.fetches.answer? file tick ∧
      ((∃ x ∈ h.final.exchanges, x.IsVerdict ∧ x.file = file ∧
          x.request.query = Upload.tickQuery tick) ∨
        h.final.station.cache.get? file = some tick)

/-- After a flush no request is left. -/
theorem pending_after_flush (hflush : h.FlushesAt j) : (h.after (j + 1)).pending = .empty := by
  obtain ⟨m, hm, hflush⟩ := hflush
  cases requests_at hm with
  | taken _ hp _ => exact hp
  | started _ hspeech =>
    subst hspeech
    cases hflush
  | promoted hno | settled hno | none hno =>
    rw [hno] at hflush
    cases hflush

/-- In the step of a flush nothing else happens. -/
theorem quiet_after_flush (hflush : h.FlushesAt j) :
    Relay.Quiet (h.after j).flush.1 (h.after (j + 1)) := by
  obtain ⟨m, hm, hflush⟩ := hflush
  cases step_at hm with
  | flush _ hq => exact hq
  | quiet hno =>
    rw [hno] at hflush
    cases hflush
  | start he | stop he | record he | dispatch he | advance he | answer he | close he =>
    rw [he] at hflush
    cases hflush

/-- The folder that is being recorded into is in no flush. -/
theorem active_not_flushed (hn : h.final.starts ≤ UInt64.size) {folder : Path}
    (ha : (h.after j).station.folders.active = some folder) : folder ∉ (h.jobAt j).folders := by
  intro hf
  obtain ⟨-, hidle, -⟩ := (ownership_after hn j).eligible_spec hf
  exact hidle ha

section Following

variable (hn : h.final.starts ≤ UInt64.size) (hflush : h.FlushesAt j)
  (halive : (h.after j).queue.alive = true)
include hflush halive

/-- The job of a flush comes last in the queue. -/
theorem jobs_after_flush : (h.after (j + 1)).queue.jobs = (h.after j).queue.jobs ++ [h.jobAt j] := by
  rw [(quiet_after_flush hflush).queue, Relay.flush_of_alive halive]
  rfl

/-- The job of a flush keeps its number. -/
theorem job_of_flush {i : Nat} (hi : j + 1 ≤ i) :
    (h.after i).queue.jobs[(h.after j).queue.jobs.length]? = some (h.jobAt j) := by
  obtain ⟨later, hlater⟩ := h.jobs_prefix hi
  rw [← hlater, jobs_after_flush hflush halive, List.append_assoc, List.getElem?_append_right
    (Nat.le_refl _), Nat.sub_self]
  rfl

variable (hfile : file ∈ (h.jobAt j).files)
  (hfirst : ∀ i < j, h.FlushesAt i → file ∉ (h.jobAt i).files)
include hn hfile hfirst

/-- A recording that no flush handed out before is in no job, however it is spelled. -/
theorem not_inJobs : ¬ Relay.InJobs (h.after j).queue.jobs file := by
  rintro ⟨job, hj, listed, hlisted, hsame⟩
  have hjobs := jobs_after_flush hflush halive
  have hold : job ∈ (h.after (j + 1)).queue.jobs := hjobs ▸ List.mem_append_left _ hj
  have hnew : h.jobAt j ∈ (h.after (j + 1)).queue.jobs :=
    hjobs ▸ List.mem_append_right _ (List.mem_singleton_self _)
  obtain ⟨rfl, -⟩ := (ownership_after hn (j + 1)).same_folder hold hnew hlisted hfile hsame
  obtain ⟨i, hi, hflush, rfl⟩ := job_origin hj
  exact hfirst i hi hflush hlisted

/-- From the flush on the recording is on its way, and filed under the tick of its job. -/
theorem tracked_final (hu : UserId.ofPath file = .ok user) :
    h.final.Tracked (h.jobAt j) (h.after j).queue.jobs.length file ∧
      h.final.Stamped (Relay.Decided h.final.fetches.answer? (h.jobAt j) file) := by
  have hnone := not_inJobs hn hflush halive hfile hfirst
  have hv := (ownership_after hn j).queue
  have hq := quiet_after_flush hflush
  refine h.keeps_final (i := j + 1) (P := fun r =>
    r.Tracked (h.jobAt j) (h.after j).queue.jobs.length file ∧
      r.Stamped (Relay.Decided h.final.fetches.answer? (h.jobAt j) file)) ?_ ?_
  · have tracked := Relay.tracked_flush (h.staffed_after j) hnone hv halive
    have stamped := Relay.stamped_of_fresh (h.staffed_after j) hnone (h.jobAt j)
    exact ⟨tracked.still hq.still, stamped.flush.still hq.still⟩
  · intro i m hi hm htracked
    exact (step_at hm).tracked (ownership_after hn i) (h.staffed_after i)
      (fun _ _ => answer_final) (job_of_flush hflush halive hi) hfile hu htracked

end Following

/-- A flush takes all requests and leaves out the folder that is being recorded into; and the
requests of the first flush that hands a recording out decide its tick. -/
theorem first_flush_decides (h : History) (hn : h.final.starts ≤ UInt64.size) {j : Nat}
    (hflush : h.FlushesAt j) :
    ((h.jobAt j).pending = (h.after j).pending ∧ (h.after (j + 1)).pending = .empty ∧
      ∀ folder, (h.after j).station.folders.active = some folder →
        folder ∉ (h.jobAt j).folders) ∧
    ((h.after j).queue.alive = true → ∀ file ∈ (h.jobAt j).files,
      (∀ i < j, h.FlushesAt i → file ∉ (h.jobAt i).files) →
      ∀ user, UserId.ofPath file = .ok user → h.DecidesTick j file) := by
  refine ⟨⟨rfl, pending_after_flush hflush, fun _ => active_not_flushed hn⟩, ?_⟩
  intro halive file hfile hfirst user hu
  obtain ⟨tracked, stamped⟩ := tracked_final hn hflush halive hfile hfirst hu
  have told : ∀ before x after, h.final.exchanges = before ++ x :: after → x.Finalizes →
      x.file = file → ¬ Relay.Judged before file →
      ∃ tick, (h.jobAt j).Gives h.final.fetches.answer? file tick ∧
        x.request.query = Upload.tickQuery tick := by
    rintro before x after hx hfin rfl hnone
    obtain ⟨tick, hdecided, hquery⟩ := stamped.told before x after hx hfin
    exact ⟨tick, (hdecided (Path.beq_refl _)).resolve_left hnone, hquery⟩
  have cached : ¬ Relay.Judged h.final.exchanges file →
      ∀ tick, h.final.station.cache.get? file = some tick →
        (h.jobAt j).Gives h.final.fetches.answer? file tick := fun hnone tick hc =>
    (stamped.cached file tick hc (Path.beq_refl file)).resolve_left hnone
  refine ⟨told, cached, fun report hover => ?_⟩
  by_cases hjudged : Relay.Judged h.final.exchanges file
  · obtain ⟨before, x, after, hx, hverdict, hf, hnone⟩ := hjudged.first
    obtain ⟨tick, hgives, hquery⟩ := told before x after hx hverdict.1 hf hnone
    refine ⟨tick, hgives, Or.inl ⟨x, ?_, hverdict, hf, hquery⟩⟩
    rw [hx]
    exact List.mem_append_right _ List.mem_cons_self
  · cases hc : h.final.station.cache.get? file with
    | some tick => exact ⟨tick, cached hjudged tick hc, Or.inr rfl⟩
    | none =>
      -- its job would still be open
      obtain ⟨⟨-, hopen⟩, -⟩ := tracked.unhandled hjudged hc
      exact absurd hover (hopen report)

/-- The sample hands its recording out once, with the request of its user. -/
theorem first_flush_decides_sample : sample.final.starts ≤ UInt64.size ∧ sample.FlushesAt 5 ∧
    sample.DecidesTick 5 ⟨["rec", "voice0", "1-a.wav"]⟩ := by
  have hn : sample.final.starts ≤ UInt64.size := Nat.le_trans sample.starts_final_le (by decide)
  have hstep : sample.steps[5]? = some .flushIfStopped := by cbv
  have htold : (sample.after 5).stopped = true := by cbv
  have hflush : sample.FlushesAt 5 := ⟨_, hstep, htold⟩
  have halive : (sample.after 5).queue.alive = true := by cbv
  have hfile : (⟨["rec", "voice0", "1-a.wav"]⟩ : Path) ∈ (sample.jobAt 5).files := by
    rw [show (sample.jobAt 5).files = [⟨["rec", "voice0", "1-a.wav"]⟩] by cbv]
    exact List.mem_singleton_self _
  have hfirst : ∀ i < 5, sample.FlushesAt i →
      (⟨["rec", "voice0", "1-a.wav"]⟩ : Path) ∉ (sample.jobAt i).files := by
    intro i hi hflushes
    have hplace := mem_places_of_flushesAt hflushes
    rw [show sample.places Move.isFlush = [5] by cbv] at hplace
    exact absurd (List.mem_singleton.1 hplace) (Nat.ne_of_lt hi)
  exact ⟨hn, hflush, (sample.first_flush_decides hn hflush).2 halive _ hfile hfirst 1 (by cbv)⟩

/-! ## Requests of the session that runs -/

/-- While session `k` runs, a user has a request that was started by what they said in it. -/
structure Requested (h : History) (k j : Nat) (user : UserId) (request : PendingTick) : Prop where
  runs : h.RunsAt k j
  pending : (h.after j).pending.get? user = some request
  spoken : ∃ i, h.FetchesAt i user request.fetch ∧ h.BelongsTo k user i

/-- The recorder reports the first session when the second one is already running. -/
def taken : History where
  disk := .blank
  options := Relay.sample.options
  settings := ⟨"localhost", 8080, "radio"⟩
  recorder := .folderOnly false
  moves := [.speech 1 0, .toggle false, .sweep 1000, .toggle true, .speech 2 2000, .toggle false,
    .record "2-b.wav" (.file [8]), .notify, .flushIfStopped, .fetch,
    .tick 0 (.body "\x7b\"tickId\":1,\"elapsed\":2\x7d"), .fetch,
    .tick 1 (.body "\x7b\"tickId\":3,\"elapsed\":4\x7d"), .sweep 4000, .toggle true, .notify,
    .flushIfStopped, .dispatch, .advance 0, .dispatch, .advance 1, .advance 1,
    .answer 1 (.body "\x7b\"fileId\":\"x\"\x7d"), .answer 1 (.body ""), .advance 1,
    .answer 1 (.body "")]

/-- In that run each comparison is with what the one before has seen. -/
theorem taken_threaded : taken.Threaded := threaded_iff.2 (by cbv)

/-- The flush takes place while the second session runs. -/
theorem taken_flushesAt : taken.FlushesAt 8 := by
  have hstep : taken.steps[8]? = some .flushIfStopped := by cbv
  have htold : (taken.after 8).stopped = true := by cbv
  exact ⟨_, hstep, htold⟩

/-- The second user speaks and goes on speaking until the second session starts. -/
theorem taken_requested : taken.Requested 1 8 2 ⟨"User2", 1⟩ := by
  refine ⟨⟨by cbv, ?_⟩, by cbv, 4, ⟨⟨2000, by cbv⟩, by cbv, by cbv⟩, Or.inr ⟨5, by decide, ?_, ?_⟩⟩
  · have hstarts : (taken.after 8).starts = 2 := by cbv
    omega
  · exact ⟨by cbv, by cbv⟩
  · intro i hlt hle
    obtain rfl : i = 5 := by omega
    cbv

/-- A flush takes the request of the session that runs, and its recording goes into the chat
without a tick, although the fetch gave one. -/
theorem request_of_running_session_taken :
    (¬ ∀ h : History, h.Threaded → ∀ j k user request, h.FlushesAt j →
      h.Requested k j user request → (h.jobAt j).pending.get? user ≠ some request) ∧
    ¬ ∀ h : History, h.Threaded → ∀ j k user request, h.FlushesAt j →
      h.Requested k j user request → ∀ answer tickId elapsed,
      h.final.fetches.answer? request.fetch = some answer →
      TickData.ofAnswer answer = ⟨some tickId, some elapsed⟩ →
      ∀ name, ∀ x ∈ h.final.exchanges, x.file = (sessionFolder h.options.root k).child name →
        UserId.ofPath x.file = .ok user → x.Finalizes →
        x.request.query = Upload.tickQuery ⟨some tickId, some elapsed⟩ := by
  constructor
  · intro hall
    have htaken : (taken.jobAt 8).pending.get? 2 = some ⟨"User2", 1⟩ := taken_requested.pending
    exact hall taken taken_threaded 8 1 2 _ taken_flushesAt taken_requested htaken
  · intro hall
    have hlast : taken.final.exchanges.getLast? = some ⟨⟨["rec", "voice1", "2-b.wav"]⟩,
        Upload.finalizeRequest "User2" "radio" "x" .unknown, .body ""⟩ := by cbv
    have hquery := hall taken taken_threaded 8 1 2 _ taken_flushesAt taken_requested
      (.body "\x7b\"tickId\":3,\"elapsed\":4\x7d") 3 4 (by cbv) (by cbv) "2-b.wav" _
      (List.mem_of_getLast? hlast) (by cbv) (by cbv) ⟨"User2", "radio", "x", .unknown, rfl⟩
    exact absurd hquery (by decide)

end History

end PushToTalk
