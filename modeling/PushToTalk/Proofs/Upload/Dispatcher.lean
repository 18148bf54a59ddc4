import Mathlib.Data.List.Induction
import PushToTalk.Proofs.Upload.Queue
import PushToTalk.Upload.Dispatcher

/-
  The dispatcher keeps to its places without counting workers.

  The queue, as the rest of the library sees it, looks at how many workers run and starts another
  one if there is a place.  The dispatcher of the program cannot look: it takes jobs off a channel,
  holds the one in its hand until it gets a permit, and gives the permit to the worker, which
  returns it when it is done or dies.  Here it is shown that both come to the same, and what that
  means for the jobs.

  1. **The dispatcher as a queue** — what it shows of itself is a queue, in which a job waits
     whether it is held or on the channel.  Each event is nothing to that queue, or just what it is
     for the queue (`Sound.queue_step`).

  2. **What is kept** — the invariant is `Sound`.  The jobs that were started and those without a
     worker, the held one first, are together the jobs that were submitted (`Sound.line`): so jobs
     are started in order, and none is left out or started twice.  Permits and workers are together
     as many as there are places (`Sound.permits`): so a job that waits while the dispatcher rests
     waits for a worker, as there is no permit.

  3. **Runs** — every event keeps the invariant, so it holds after any events.  The reports are
     those of the workers that came to the end of their pass (`mem_reports_iff`).

  4. **All queues that are shown** are those that `Queue.submit`, `Queue.dispatch` and
     `Queue.update` lead to, and the other way round.  So what is proved of the queue holds of the
     dispatcher.

  In which order the events come is left open, and so is what a worker does between two of them.

  Main statements: `dispatched` and `queue_reached_iff`.
-/

namespace PushToTalk.Upload

/-! ## The dispatcher as a queue -/

/-- What an event is for the queue. Taking a job off the channel is nothing. -/
def Queue.step (q : Queue) : Dispatcher.Event → Queue
  | .submit job =>
    match q.submit job with
    | .ok (q', _) => q'
    | .error _ => q
  | .spawn => q.dispatch.getD q
  | .work id worker => if id ∈ q.running.map (·.1) then q.update id worker else q
  | .take | .send _ => q

/-- What events are for the queue, one after the other. -/
def Queue.run (q : Queue) (events : List Dispatcher.Event) : Queue := events.foldl step q

/-- The queue keeps its count whatever happens. The cases are those of the events. -/
theorem Queue.Valid.step {q : Queue} (h : q.Valid) (e : Dispatcher.Event) : (q.step e).Valid := by
  cases e with
  | submit job =>
    unfold Queue.step
    dsimp only
    split
    · next hs => exact valid_submit h hs
    · exact h
  | spawn =>
    show (q.dispatch.getD q).Valid
    cases hd : q.dispatch with
    | none => exact h
    | some q' => exact valid_dispatch h hd
  | work id worker =>
    unfold Queue.step
    dsimp only
    split
    · next hid =>
      obtain ⟨e, he, rfl⟩ := List.mem_map.1 hid
      exact valid_update h he worker
    · exact h
  | take | send id => exact h

namespace Dispatcher

/-- The queue that a dispatcher shows: whether a job is held or on the channel, it waits. -/
def queue (d : Dispatcher) : Queue where
  limit := d.limit
  alive := true
  jobs := d.jobs
  waiting := d.waiting
  running := d.running
  outcomes := d.outcomes

variable {d : Dispatcher} {n limit : Nat} {id : JobId} {job : Job} {w : Worker}

/-- The dispatcher takes the oldest job, or there is none or one is held. -/
theorem take_cases (d : Dispatcher) :
    (d.held.isSome = true ∨ d.channel = []) ∧ d.step .take = d ∨
      ∃ first later, d.held = none ∧ d.channel = first :: later ∧
        d.step .take = { d with held := some first, channel := later } := by
  show (_ ∧ d.take.getD d = d) ∨ ∃ first later, _ ∧ _ ∧ d.take.getD d = _
  unfold take
  cases hheld : d.held with
  | some e => exact Or.inl ⟨Or.inl rfl, rfl⟩
  | none =>
    cases hchannel : d.channel with
    | nil => exact Or.inl ⟨Or.inr rfl, rfl⟩
    | cons first later => exact Or.inr ⟨first, later, rfl, rfl, rfl⟩

/-- The job that is held gets a worker and a permit, or there is no such job or no permit. -/
theorem spawn_cases (d : Dispatcher) :
    (d.held = none ∨ d.permits = 0) ∧ d.step .spawn = d ∨
      ∃ id job permits, d.held = some (id, job) ∧ d.permits = permits + 1 ∧
        d.step .spawn = { d with
          held := none
          permits
          started := d.started ++ [(id, job)]
          running := d.running ++ [(id, Worker.start job.files job.folders job.pending)] } := by
  show (_ ∧ d.spawn.getD d = d) ∨ ∃ id job permits, _ ∧ _ ∧ d.spawn.getD d = _
  unfold spawn
  cases hheld : d.held with
  | none => exact Or.inl ⟨Or.inl rfl, rfl⟩
  | some e =>
    cases hpermits : d.permits with
    | zero => exact Or.inl ⟨Or.inr rfl, rfl⟩
    | succ permits => exact Or.inr ⟨e.1, e.2, permits, rfl, rfl, rfl⟩

/-- The worker of a job moves, ends or dies, if the job runs at all. -/
theorem work_cases (d : Dispatcher) (id : JobId) (w : Worker) :
    id ∉ d.running.map (·.1) ∧ d.work id w = d ∨ id ∈ d.running.map (·.1) ∧
      (w.stage = .ended ∧ d.work id w = { d.free id (.reported w.report) with
          sending := d.sending ++ [(id, w.report)] } ∨
        w.stage ≠ .ended ∧ d.work id w = d.free id .lost ∨
        w.stage ≠ .ended ∧ d.work id w = { d with
          running := d.running.map fun e => if e.1 == id then (id, w) else e }) := by
  unfold work
  split
  · next hid =>
    refine Or.inr ⟨hid, ?_⟩
    split
    · next hs => exact Or.inl ⟨hs, rfl⟩
    · next hs => exact Or.inr (Or.inl ⟨by rw [hs]; nofun, rfl⟩)
    · next hs _ => exact Or.inr (Or.inr ⟨hs, rfl⟩)
  · next hid => exact Or.inl ⟨hid, rfl⟩

/-- What a worker does is to the queue what its own step makes of it. -/
theorem queue_work (d : Dispatcher) (id : JobId) (w : Worker) :
    (d.work id w).queue = d.queue.step (.work id w) := by
  show _ = if id ∈ d.running.map (·.1) then d.queue.update id w else d.queue
  unfold work Queue.update
  split
  · cases w.stage <;> rfl
  · rfl

/-- A job that is put on the channel is a job that waits. -/
theorem queue_submit (d : Dispatcher) (job : Job) :
    (d.submit job).queue = d.queue.step (.submit job) := by
  simp [submit, queue, waiting, Queue.step, Queue.submit]

/-- A job waits, whether it is held or on the channel. -/
theorem queue_take (d : Dispatcher) : (d.step .take).queue = d.queue := by
  rcases take_cases d with ⟨-, he⟩ | ⟨first, later, hheld, hchannel, he⟩ <;> rw [he]
  simp [queue, waiting, hheld, hchannel]

/-! ## What is kept -/

/-- The reports of the workers that ended, in the order in which they did. -/
def reports (d : Dispatcher) : List (JobId × Report) :=
  d.outcomes.filterMap fun e =>
    match e.2 with
    | .reported report => some (e.1, report)
    | .lost => none

/-- A worker that ends adds its report. -/
theorem reports_reported (d : Dispatcher) (id : JobId) (report : Report) :
    (d.free id (.reported report)).reports = d.reports ++ [(id, report)] := by
  simp [reports, free]

/-- One that dies adds none. -/
theorem reports_lost (d : Dispatcher) (id : JobId) : (d.free id .lost).reports = d.reports := by
  simp [reports, free]

/-- What holds at any time of a dispatcher for `n` workers: the queue that it shows keeps its
count, no permit and no job is lost, and every report has been received or is on its way. -/
structure Sound (d : Dispatcher) (n : Nat) : Prop where
  places : d.queue.places = n
  valid : d.queue.Valid
  permits : d.permits + d.running.length = n
  line : d.started ++ d.waiting = d.submitted
  reports : (d.received ++ d.sending).Perm d.reports

/-- At the start all permits are there, and one at least. -/
theorem Sound.start (limit : Nat) : (Dispatcher.start limit).Sound (max 1 limit) :=
  ⟨rfl, Queue.valid_start limit, Nat.add_zero _, rfl, .refl _⟩

/-- With a job in hand the dispatcher starts a worker exactly when the queue does. -/
theorem Sound.queue_spawn (hd : d.Sound n) (hheld : d.held = some (id, job)) :
    (d.step .spawn).queue = d.queue.step .spawn := by
  show (d.spawn.getD d).queue = d.queue.dispatch.getD d.queue
  have hwaiting : d.queue.waiting = (id, job) :: d.channel := by
    simp [queue, waiting, hheld]
  have hpermits := hd.permits
  unfold spawn Queue.dispatch
  rw [hheld, hwaiting, hd.places]
  cases hp : d.permits with
  | zero =>
    -- all permits are with workers, so the queue finds every place taken
    have hfull : ¬ d.running.length < n := by omega
    simp [queue, hfull]
  | succ permits =>
    have hfree : d.running.length < n := by omega
    simp [queue, waiting, hfree]

/-- Without a job neither starts a worker. -/
theorem queue_spawn_of_nil (hempty : d.waiting = []) :
    (d.step .spawn).queue = d.queue.step .spawn := by
  have hheld : d.held = none := Option.toList_eq_nil_iff.1 (List.append_eq_nil_iff.1 hempty).1
  simp [step, spawn, hheld, Queue.step, Queue.dispatch, queue, hempty]

/-- An event is nothing to the queue, or just what it is for the queue. -/
theorem Sound.queue_step (hd : d.Sound n) (e : Event) :
    (d.step e).queue = d.queue ∨ (d.step e).queue = d.queue.step e := by
  cases e with
  | submit job => exact Or.inr (queue_submit d job)
  | take => exact Or.inl (queue_take d)
  | spawn =>
    cases hheld : d.held with
    | none => exact Or.inl (by simp [Dispatcher.step, Dispatcher.spawn, hheld])
    | some e => exact Or.inr (hd.queue_spawn hheld)
  | work id w => exact Or.inr (queue_work d id w)
  | send id => exact Or.inl rfl

/-- The jobs with their numbers, after one more. -/
theorem submitted_submit (d : Dispatcher) (job : Job) :
    (d.submit job).submitted = d.submitted ++ [(d.jobs.length, job)] := by
  unfold submitted submit
  rw [List.length_append, List.length_singleton, List.range_succ,
    List.zip_append List.length_range]
  rfl

/-- When a job is over, the number of workers goes down by one. -/
theorem Sound.running_free (hd : d.Sound n) (hid : id ∈ d.running.map (·.1)) (outcome : Outcome) :
    (d.free id outcome).running.length + 1 = d.running.length := by
  obtain ⟨e, he, rfl⟩ := List.mem_map.1 hid
  have hlen := (Queue.running_perm hd.valid he).length_eq
  rw [List.length_cons, List.length_map, List.length_map] at hlen
  exact hlen.symm

/-- The count is kept, because the queue keeps it. -/
theorem Sound.valid_step (hd : d.Sound n) (e : Event) : (d.step e).queue.Valid := by
  rcases hd.queue_step e with he | he
  · exact he ▸ hd.valid
  · exact he ▸ hd.valid.step e

/-! ## One event -/

/-- A job that is submitted goes to the end of the line. -/
theorem Sound.submit (hd : d.Sound n) (job : Job) : (d.submit job).Sound n := by
  refine ⟨hd.places, hd.valid_step (.submit job), hd.permits, ?_, hd.reports⟩
  rw [submitted_submit, ← hd.line]
  show d.started ++ (d.held.toList ++ (d.channel ++ [(d.jobs.length, job)])) = _
  simp only [waiting, List.append_assoc]

/-- A job that is taken is still at the front of the line. -/
theorem Sound.take (hd : d.Sound n) : (d.step .take).Sound n := by
  have hvalid := hd.valid_step .take
  rcases take_cases d with ⟨-, he⟩ | ⟨first, later, hheld, hchannel, he⟩ <;> rw [he] at hvalid ⊢
  · exact hd
  · refine ⟨hd.places, hvalid, hd.permits, Eq.trans ?_ hd.line, hd.reports⟩
    simp [waiting, hheld, hchannel]

/-- A job that is started goes over from those that wait to those that were started, in its
place. -/
theorem Sound.spawn (hd : d.Sound n) : (d.step .spawn).Sound n := by
  have hvalid := hd.valid_step .spawn
  rcases spawn_cases d with ⟨-, he⟩ | ⟨id, job, permits, hheld, hp, he⟩ <;> rw [he] at hvalid ⊢
  · exact hd
  · refine ⟨hd.places, hvalid, ?_, Eq.trans ?_ hd.line, hd.reports⟩
    · -- the worker has the permit that is gone
      have hpermits := hd.permits
      show permits + (d.running ++ [_]).length = n
      rw [List.length_append, List.length_singleton]
      omega
    · simp [waiting, hheld]

/-- A worker that ends or dies returns its permit. One that moves on keeps it. -/
theorem Sound.work (hd : d.Sound n) (id : JobId) (w : Worker) : (d.work id w).Sound n := by
  have hvalid : (d.work id w).queue.Valid := hd.valid_step (.work id w)
  have hpermits := hd.permits
  rcases work_cases d id w with ⟨-, he⟩ | ⟨hid, ⟨-, he⟩ | ⟨-, he⟩ | ⟨-, he⟩⟩ <;> rw [he] at hvalid ⊢
  · exact hd
  · -- one worker less, and one permit more
    have hfree := hd.running_free hid (.reported w.report)
    refine ⟨hd.places, hvalid, ?_, hd.line, ?_⟩
    · show d.permits + 1 + (d.free id (.reported w.report)).running.length = n
      omega
    · show (d.received ++ (d.sending ++ [(id, w.report)])).Perm
        (d.free id (.reported w.report)).reports
      rw [reports_reported, ← List.append_assoc]
      exact hd.reports.append_right _
  · have hfree := hd.running_free hid .lost
    refine ⟨hd.places, hvalid, ?_, hd.line, ?_⟩
    · show d.permits + 1 + (d.free id .lost).running.length = n
      omega
    · rw [reports_lost]
      exact hd.reports
  · refine ⟨hd.places, hvalid, ?_, hd.line, hd.reports⟩
    rw [List.length_map]
    exact hpermits

/-- A report that is sent has been received instead of being on its way. -/
theorem Sound.send (hd : d.Sound n) (id : JobId) : (d.send id).Sound n := by
  refine ⟨hd.places, hd.valid, hd.permits, hd.line, List.Perm.trans ?_ hd.reports⟩
  show ((d.received ++ d.sending.filter _) ++ d.sending.filter _).Perm _
  rw [List.append_assoc]
  exact (List.filter_append_perm _ _).append_left _

/-- Whatever happens, what is kept is kept. -/
theorem Sound.step (hd : d.Sound n) (e : Event) : (d.step e).Sound n := by
  cases e with
  | submit job => exact hd.submit job
  | take => exact hd.take
  | spawn => exact hd.spawn
  | work id w => exact hd.work id w
  | send id => exact hd.send id

/-! ## Runs -/

variable {events : List Event}

/-- Events may be taken in two parts. -/
theorem run_append (d : Dispatcher) (events later : List Event) :
    d.run (events ++ later) = (d.run events).run later := List.foldl_append ..

/-- The last event comes last. Inductions on runs go from the end, since a report is the work of
the last event that touched it. -/
theorem run_concat (d : Dispatcher) (events : List Event) (e : Event) :
    d.run (events ++ [e]) = (d.run events).step e := List.foldl_concat ..

/-- What holds of a dispatcher at the start holds of it at any time. -/
theorem Sound.run (hd : d.Sound n) (events : List Event) : (d.run events).Sound n := by
  induction events using List.reverseRecOn with
  | nil => exact hd
  | append_singleton events e ih => exact run_concat d events e ▸ ih.step e

/-- The job that an event submits. -/
def Event.job? : Event → Option Job
  | .submit job => some job
  | _ => none

/-- Only a submission adds a job. -/
theorem jobs_step (d : Dispatcher) (e : Event) : (d.step e).jobs = d.jobs ++ e.job?.toList := by
  cases e with
  | submit job => rfl
  | take =>
    rcases take_cases d with ⟨-, he⟩ | ⟨first, later, -, -, he⟩ <;> rw [he] <;>
      exact (List.append_nil _).symm
  | spawn =>
    rcases spawn_cases d with ⟨-, he⟩ | ⟨id, job, permits, -, -, he⟩ <;> rw [he] <;>
      exact (List.append_nil _).symm
  | work id w =>
    show (d.work id w).jobs = d.jobs ++ []
    rcases work_cases d id w with ⟨-, he⟩ | ⟨-, ⟨-, he⟩ | ⟨-, he⟩ | ⟨-, he⟩⟩ <;> rw [he] <;>
      exact (List.append_nil _).symm
  | send id => exact (List.append_nil _).symm

/-- The jobs are those that were submitted, in order. -/
theorem jobs_run (d : Dispatcher) (events : List Event) :
    (d.run events).jobs = d.jobs ++ events.filterMap Event.job? := by
  induction events using List.reverseRecOn with
  | nil => exact (List.append_nil _).symm
  | append_singleton events e ih =>
    rw [run_concat, jobs_step, ih, List.filterMap_append, List.append_assoc]
    cases he : e.job? <;> simp [he]

/-- In the course of the events the worker of a job came to the end of its pass as `w`. -/
def Ends (limit : Nat) (events : List Event) (id : JobId) (w : Worker) : Prop :=
  ∃ before later, events = before ++ .work id w :: later ∧
    id ∈ ((Dispatcher.start limit).run before).running.map (·.1) ∧ w.stage = .ended

/-- A worker ended in the last event, or before. -/
theorem ends_concat {e : Event} : Ends limit (events ++ [e]) id w ↔ Ends limit events id w ∨
    e = .work id w ∧ id ∈ ((Dispatcher.start limit).run events).running.map (·.1) ∧
      w.stage = .ended := by
  constructor
  · rintro ⟨before, later, he, hid, hw⟩
    -- the worker ended in the last event, or in an earlier one
    rcases List.eq_nil_or_concat' later with rfl | ⟨later, last, rfl⟩
    · obtain ⟨rfl, hlast⟩ := List.append_inj' he rfl
      exact Or.inr ⟨List.head_eq_of_cons_eq hlast, hid, hw⟩
    · have hsplit : events ++ [e] = (before ++ .work id w :: later) ++ [last] := by
        rw [he, List.append_assoc, List.cons_append]
      obtain ⟨rfl, -⟩ := List.append_inj' hsplit rfl
      exact Or.inl ⟨before, later, rfl, hid, hw⟩
  · rintro (⟨before, later, rfl, hid, hw⟩ | ⟨rfl, hid, hw⟩)
    · exact ⟨before, later ++ [e], by rw [List.append_assoc, List.cons_append], hid, hw⟩
    · exact ⟨events, [], rfl, hid, hw⟩

/-- Only a worker that ends reports. -/
theorem mem_reports_step {e : Event} {report : Report} : (id, report) ∈ (d.step e).reports ↔
    (id, report) ∈ d.reports ∨
      ∃ w, e = .work id w ∧ id ∈ d.running.map (·.1) ∧ w.stage = .ended ∧ w.report = report := by
  -- all events but one add no report, and are no end of a worker either
  have hsame : (d.step e).reports = d.reports →
      (∀ w, e = .work id w → id ∈ d.running.map (·.1) → w.stage ≠ .ended) →
      ((id, report) ∈ (d.step e).reports ↔ (id, report) ∈ d.reports ∨
        ∃ w, e = .work id w ∧ id ∈ d.running.map (·.1) ∧ w.stage = .ended ∧
          w.report = report) := by
    intro he hne
    rw [he]
    refine (or_iff_left ?_).symm
    rintro ⟨w, hw, hid, hs, -⟩
    exact hne w hw hid hs
  cases e with
  | submit job => exact hsame rfl nofun
  | take =>
    refine hsame ?_ nofun
    rcases take_cases d with ⟨-, he⟩ | ⟨first, later, -, -, he⟩ <;> rw [he]
    rfl
  | spawn =>
    refine hsame ?_ nofun
    rcases spawn_cases d with ⟨-, he⟩ | ⟨id, job, permits, -, -, he⟩ <;> rw [he]
    rfl
  | work id' w =>
    rcases work_cases d id' w with ⟨hid, he⟩ | ⟨hid, ⟨hs, he⟩ | ⟨hs, he⟩ | ⟨hs, he⟩⟩
    · refine hsame (congrArg Dispatcher.reports he) ?_
      rintro w' ⟨⟩ hid'
      exact absurd hid' hid
    · have hreports : (d.step (.work id' w)).reports = d.reports ++ [(id', w.report)] :=
        (congrArg Dispatcher.reports he).trans (reports_reported d id' w.report)
      rw [hreports, List.mem_append, List.mem_singleton, Prod.mk.injEq]
      refine or_congr_right ⟨?_, ?_⟩
      · rintro ⟨rfl, rfl⟩
        exact ⟨w, rfl, hid, hs, rfl⟩
      · rintro ⟨w', ⟨⟩, -, -, rfl⟩
        exact ⟨rfl, rfl⟩
    · refine hsame ((congrArg Dispatcher.reports he).trans (reports_lost d id')) ?_
      rintro w' ⟨⟩ -
      exact hs
    · refine hsame ((congrArg Dispatcher.reports he).trans rfl) ?_
      rintro w' ⟨⟩ -
      exact hs
  | send id => exact hsame rfl nofun

/-- The reports are those of the workers that ended. -/
theorem mem_reports_iff {report : Report} :
    (id, report) ∈ ((Dispatcher.start limit).run events).reports ↔
      ∃ w, Ends limit events id w ∧ w.report = report := by
  induction events using List.reverseRecOn with
  | nil =>
    refine iff_of_false List.not_mem_nil ?_
    rintro ⟨w, ⟨before, later, he, -⟩, -⟩
    exact absurd he.symm (List.append_ne_nil_of_right_ne_nil _ (List.cons_ne_nil _ _))
  | append_singleton events e ih =>
    rw [run_concat, mem_reports_step, ih]
    simp only [ends_concat, or_and_right, exists_or, and_assoc]

/-- Where every number stands once, one entry stands under a number. -/
theorem filter_id_eq {α : Type} {entries : List (JobId × α)} {a : α}
    (hn : (entries.map (·.1)).Nodup) (hm : (id, a) ∈ entries) :
    entries.filter (fun e => e.1 == id) = [(id, a)] := by
  induction entries with
  | nil => cases hm
  | cons e rest ih =>
    obtain ⟨hnot, hrest⟩ := List.nodup_cons.1 hn
    rcases List.mem_cons.1 hm with rfl | hm
    · have hnone : rest.filter (fun e => e.1 == id) = [] := by
        refine List.filter_eq_nil_iff.2 fun e he => ?_
        have hne : e.1 ≠ id := fun hid => hnot (hid ▸ List.mem_map_of_mem (f := (·.1)) he)
        simpa using hne
      simp [hnone]
    · have hne : e.1 ≠ id := by
        rintro rfl
        exact hnot (List.mem_map_of_mem (f := (·.1)) hm)
      rw [List.filter_cons_of_neg (by simpa using hne), ih hrest hm]

/-- Every job has one report at most. -/
theorem Sound.nodup_reports (hd : d.Sound n) :
    ((d.received ++ d.sending).map (·.1)).Nodup := by
  rw [(hd.reports.map _).nodup_iff]
  have hover : (d.outcomes.map (·.1)).Nodup :=
    (List.nodup_append.1 (List.nodup_append.1 hd.valid.nodup).2.1).2.1
  refine List.Nodup.sublist ?_ hover
  -- the reports are some of the outcomes, in their order, and each outcome is there once
  unfold Dispatcher.reports
  induction d.outcomes with
  | nil => exact .slnil
  | cons e rest ih =>
    obtain ⟨id, outcome⟩ := e
    cases outcome with
    | reported report => exact ih.cons_cons id
    | lost => exact ih.cons id

/-! ## Rest -/

/-- A job that waits while the dispatcher rests waits for a worker. -/
theorem Sound.full_of_waiting (hd : d.Sound n) (hrest : d.AtRest) (hw : d.waiting ≠ []) :
    d.running.length = n := by
  obtain ⟨htake, hspawn⟩ := hrest
  have hpermits := hd.permits
  -- a job in hand waits for a permit, and without one in hand the channel is empty
  cases hheld : d.held with
  | none =>
    cases hchannel : d.channel with
    | nil => exact absurd (by simp [waiting, hheld, hchannel]) hw
    | cons first later => simp [Dispatcher.take, hheld, hchannel] at htake
  | some e =>
    cases hp : d.permits with
    | zero => omega
    | succ permits => simp [Dispatcher.spawn, hheld, hp] at hspawn

/-- With room for one worker the second job is held until the worker of the first has died. -/
example (job : Job) (w : Worker) :
    let d := (Dispatcher.start 0).run [.submit job, .submit job, .take, .spawn, .take, .spawn]
    d.held = some (1, job) ∧
      (d.run [.work 0 { w with stage := .dead }, .spawn]).running.map (·.1) = [1] :=
  ⟨rfl, rfl⟩

/-! ## All queues that are shown -/

/-- A run shows what the queue's own steps lead to. -/
theorem queue_run (limit : Nat) (events : List Event) : ∃ steps, steps.Sublist events ∧
    (Queue.start limit).run steps = ((Dispatcher.start limit).run events).queue := by
  induction events using List.reverseRecOn with
  | nil => exact ⟨[], .slnil, rfl⟩
  | append_singleton events e ih =>
    obtain ⟨steps, hsub, hsteps⟩ := ih
    rw [run_concat]
    rcases ((Sound.start limit).run events).queue_step e with he | he
    · exact ⟨steps, hsub.trans (List.sublist_append_left _ _), hsteps.trans he.symm⟩
    · refine ⟨steps ++ [e], hsub.append_right _, ?_⟩
      rw [he, ← hsteps]
      exact List.foldl_concat ..

/-- What a dispatcher does for an event of the queue: a job that is started has to be taken
first. -/
def Event.whole : Event → List Event
  | .take => []
  | .spawn => [.take, .spawn]
  | e => [e]

/-- After an attempt to take a job one is held, if any waits. -/
theorem waiting_of_take (h : (d.step .take).held = none) : (d.step .take).waiting = [] := by
  rcases take_cases d with ⟨hnone, he⟩ | ⟨first, later, -, -, he⟩ <;> rw [he] at h ⊢
  · have hchannel : d.channel = [] := hnone.resolve_left (by simp [h])
    simp [waiting, h, hchannel]
  · cases h

/-- What the queue does at once the dispatcher does in one or two events. -/
theorem Sound.queue_whole (hd : d.Sound n) (e : Event) :
    (d.run e.whole).queue = d.queue.step e := by
  cases e with
  | submit job => exact queue_submit d job
  | spawn =>
    show ((d.step .take).step .spawn).queue = d.queue.step .spawn
    rw [← queue_take d]
    cases hheld : (d.step .take).held with
    | some e => exact hd.take.queue_spawn hheld
    | none => exact queue_spawn_of_nil (waiting_of_take hheld)
  | work id w => exact queue_work d id w
  | take | send id => rfl

/-- Dispatchers show exactly the queues that the queue's own steps lead to. -/
theorem queue_reached_iff (limit : Nat) (q : Queue) :
    (∃ events, ((Dispatcher.start limit).run events).queue = q) ↔
      ∃ steps, (Queue.start limit).run steps = q := by
  constructor
  · rintro ⟨events, rfl⟩
    obtain ⟨steps, -, hsteps⟩ := queue_run limit events
    exact ⟨steps, hsteps⟩
  · rintro ⟨steps, rfl⟩
    refine ⟨steps.flatMap Event.whole, ?_⟩
    induction steps using List.reverseRecOn with
    | nil => rfl
    | append_singleton steps e ih =>
      have hsound := (Sound.start limit).run (steps.flatMap Event.whole)
      rw [List.flatMap_append, List.flatMap_singleton, run_append, hsound.queue_whole, ih]
      exact (List.foldl_concat ..).symm

/-! ## The whole -/

/-- The jobs that were started are those that run or are over. -/
theorem Sound.started_perm (hd : d.Sound n) :
    (d.running.map (·.1) ++ d.outcomes.map (·.1)).Perm (d.started.map (·.1)) := by
  have hline : d.started.map (·.1) ++ d.waiting.map (·.1) = List.range d.jobs.length := by
    rw [← List.map_append, hd.line]
    exact List.map_fst_zip (Nat.le_of_eq List.length_range)
  refine (List.perm_append_left_iff (d.waiting.map (·.1))).1 ?_
  refine List.Perm.trans hd.valid.ids_perm ?_
  exact hline ▸ List.perm_append_comm

/-- The account of a dispatcher for up to `limit` workers, none counting as one, after any jobs
were submitted and any workers went on, ended or died, in any order. -/
structure Dispatched (limit : Nat) (events : List Event) (d : Dispatcher) : Prop where
  /-- Jobs are numbered as they are submitted, and started in that order without a gap. -/
  submitted : d.jobs = events.filterMap Event.job?
  ordered : d.started <+: d.submitted
  /-- Every job that was started runs or is over. -/
  started : (d.running.map (·.1) ++ d.outcomes.map (·.1)).Perm (d.started.map (·.1))
  /-- Every job that was submitted is in one place. -/
  placed : (d.waiting.map (·.1) ++ (d.running.map (·.1) ++ d.outcomes.map (·.1))).Perm
    (List.range d.jobs.length)
  /-- No more workers run than may, and a permit that no worker has is there for another. -/
  bounded : d.running.length ≤ max 1 limit
  returned : d.permits + d.running.length = max 1 limit
  /-- A job waits at rest only if no other worker may run. -/
  full : d.AtRest → d.waiting ≠ [] → d.running.length = max 1 limit
  /-- A job whose worker ends gets the report of its worker, once: it is on its way or has been
  received, and once it is sent it has been received. -/
  reported : ∀ id w, Ends limit events id w →
    (d.received ++ d.sending).filter (fun e => e.1 == id) = [(id, w.report)] ∧
      (d.send id).received.filter (fun e => e.1 == id) = [(id, w.report)]
  /-- There are no other reports. -/
  received : ∀ id report, (id, report) ∈ d.received ++ d.sending →
    ∃ w, Ends limit events id w ∧ w.report = report
  /-- All this is a queue to whoever looks at it, and goes by the queue's own steps. -/
  queue : ∃ steps, steps.Sublist events ∧ (Queue.start limit).run steps = d.queue

/-- Whatever happens, the dispatcher keeps the order, loses no job and no permit, and lets every
worker that ends report once. It holds for every number of places and all events, also for those
that make no sense for a queue of that state, which change nothing. -/
theorem dispatched (limit : Nat) (events : List Event) :
    Dispatched limit events ((Dispatcher.start limit).run events) := by
  have hd := (Sound.start limit).run events
  have hreports : ∀ id report,
      (id, report) ∈ ((Dispatcher.start limit).run events).received ++
        ((Dispatcher.start limit).run events).sending ↔
      ∃ w, Ends limit events id w ∧ w.report = report := fun id report => by
    rw [hd.reports.mem_iff, mem_reports_iff]
  constructor
  · exact (jobs_run _ events).trans (List.nil_append _)
  · exact ⟨_, hd.line⟩
  · exact hd.started_perm
  · exact hd.valid.ids_perm
  · have hpermits := hd.permits
    omega
  · exact hd.permits
  · exact hd.full_of_waiting
  · intro id w hends
    have honce := filter_id_eq hd.nodup_reports ((hreports id w.report).2 ⟨w, hends, rfl⟩)
    refine ⟨honce, ?_⟩
    rw [← honce]
    show (_ ++ List.filter _ _).filter _ = _
    rw [List.filter_append, List.filter_append, List.filter_filter]
    simp
  · exact fun id report => (hreports id report).1
  · exact queue_run limit events

end Dispatcher

end PushToTalk.Upload
