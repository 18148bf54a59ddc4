import Mathlib.Data.List.Nodup
import PushToTalk.Upload.Queue

/-
  The upload queue keeps count of its jobs.

  A flush hands a job over and forgets it, so from then on the queue is the only one that knows of
  the files in it.  Every job that was submitted is in exactly one of three places: it waits, it
  runs, or it is over.  A job is open until its worker has reported back; one whose worker died, or
  that was never started, stays open for good.

  1. **The count** — `Valid` says that the numbers in the three places are together those of all
     jobs, each of them once.  What the rest of the library needs follows from it: a job has one
     worker, ends once, and is not over while it runs.

  2. **Submitting and starting** — a new job goes to the end of those that wait, and a worker is
     started for the first of them.  The open jobs grow by the new one (`isOpen_submit`).

  3. **Moving and ending** — when a worker is put back after a move, its job runs on or is over.
     Only a report closes a job (`isOpen_ended`, `isOpen_update`).

  4. **The end of the dispatcher** — the jobs that wait are over without a report, so they stay
     open.

  The queue takes any worker back for a job that runs; that the worker goes on from where it was is
  shown where the relay moves it.

  Main statements: `valid_submit`, `valid_dispatch`, `valid_update` and `valid_kill`.
-/

namespace PushToTalk.Upload.Queue

/-- The numbers of all jobs, by the places where they are. -/
def ids (q : Queue) : List JobId :=
  q.waiting.map (·.1) ++ (q.running.map (·.1) ++ q.outcomes.map (·.1))

/-- Every job that was submitted is in exactly one place, and waits as it was submitted. -/
structure Valid (q : Queue) : Prop where
  ids_perm : q.ids.Perm (List.range q.jobs.length)
  waits : ∀ e ∈ q.waiting, q.jobs[e.1]? = some e.2

/-- A job that was submitted and has not reported back. The folders of an open job are still in
processing, which is what the invariants of the relay are about. -/
def IsOpen (q : Queue) (id : JobId) (job : Job) : Prop :=
  q.jobs[id]? = some job ∧ ∀ report, (id, Outcome.reported report) ∉ q.outcomes

variable {q : Queue}

/-- No number is in two places, or twice in one. -/
theorem Valid.nodup (h : q.Valid) : q.ids.Nodup :=
  h.ids_perm.nodup_iff.2 List.nodup_range

/-- In particular no job has two workers. -/
theorem Valid.running_nodup (h : q.Valid) : (q.running.map (·.1)).Nodup :=
  (List.nodup_append.1 (List.nodup_append.1 h.nodup).2.1).1

/-- The queue knows of no job that was not submitted. -/
theorem Valid.lt_of_mem (h : q.Valid) {id : JobId} (hid : id ∈ q.ids) : id < q.jobs.length :=
  List.mem_range.1 (h.ids_perm.mem_iff.1 hid)

/-- A job that waits or runs is not over. -/
theorem Valid.not_over (h : q.Valid) {id : JobId}
    (hid : id ∈ q.waiting.map (·.1) ∨ id ∈ q.running.map (·.1)) : id ∉ q.outcomes.map (·.1) := by
  obtain ⟨-, hrest, hwait⟩ := List.nodup_append.1 h.nodup
  obtain ⟨-, -, hrun⟩ := List.nodup_append.1 hrest
  intro hover
  rcases hid with hw | hr
  · exact hwait id hw id (List.mem_append_right _ hover) rfl
  · exact hrun id hr id hover rfl

/-- A job that waits or runs is open. -/
theorem Valid.isOpen (h : q.Valid) {id : JobId} {job : Job} (hj : q.jobs[id]? = some job)
    (hid : id ∈ q.waiting.map (·.1) ∨ id ∈ q.running.map (·.1)) : q.IsOpen id job :=
  ⟨hj, fun _ hover => h.not_over hid (List.mem_map_of_mem (f := (·.1)) hover)⟩

/-- The worker that is found for a job runs. -/
theorem mem_of_worker? {id : JobId} {w : Worker} (h : q.worker? id = some w) :
    (id, w) ∈ q.running := by
  unfold worker? at h
  obtain ⟨⟨id', w'⟩, hf, rfl⟩ := Option.map_eq_some_iff.1 h
  have hid : id' = id := by simpa using List.find?_some hf
  exact hid ▸ List.mem_of_find?_eq_some hf

/-- A job has one worker. -/
theorem Valid.worker_unique (h : q.Valid) {id : JobId} {w w' : Worker}
    (hw : (id, w) ∈ q.running) (hw' : (id, w') ∈ q.running) : w = w' :=
  (Prod.mk.inj (List.inj_on_of_nodup_map h.running_nodup hw hw' rfl)).2

/-- A worker that runs is found, since there is no other one for its job. -/
theorem Valid.worker?_eq_some (h : q.Valid) {id : JobId} {w : Worker}
    (hw : (id, w) ∈ q.running) : q.worker? id = some w := by
  cases hf : q.worker? id with
  | some w' => rw [h.worker_unique hw (mem_of_worker? hf)]
  | none =>
    unfold worker? at hf
    rw [Option.map_eq_none_iff, List.find?_eq_none] at hf
    exact absurd (beq_self_eq_true id) (hf _ hw)

/-- No job is over twice. -/
theorem Valid.outcomes_nodup (h : q.Valid) : (q.outcomes.map (·.1)).Nodup :=
  (List.nodup_append.1 (List.nodup_append.1 h.nodup).2.1).2.1

/-- A job ends once. -/
theorem Valid.outcome_unique (h : q.Valid) {id : JobId} {o o' : Outcome}
    (ho : (id, o) ∈ q.outcomes) (ho' : (id, o') ∈ q.outcomes) : o = o' :=
  (Prod.mk.inj (List.inj_on_of_nodup_map h.outcomes_nodup ho ho' rfl)).2

/-- A report that came is the one that is given when somebody asks for it. -/
theorem Valid.report?_eq_some (h : q.Valid) {id : JobId} {report : Report}
    (ho : (id, .reported report) ∈ q.outcomes) : q.report? id = some report := by
  have hsome : (q.outcomes.find? fun e => e.1 == id).isSome = true :=
    List.find?_isSome.2 ⟨_, ho, beq_self_eq_true id⟩
  obtain ⟨⟨i, o⟩, hf⟩ := Option.isSome_iff_exists.1 hsome
  obtain rfl : i = id := by simpa using List.find?_some hf
  obtain rfl := h.outcome_unique (List.mem_of_find?_eq_some hf) ho
  unfold report? outcome?
  rw [hf]
  rfl

/-! ## Submitting and starting -/

/-- Without jobs there is nothing to be counted. -/
theorem valid_start (limit : Nat) : (start limit).Valid :=
  ⟨List.Perm.refl _, fun _ he => absurd he List.not_mem_nil⟩

/-- Numbers are not given out anew. -/
theorem getElem?_append_of_some {jobs : List Job} {id : JobId} {job : Job}
    (h : jobs[id]? = some job) (later : List Job) : (jobs ++ later)[id]? = some job := by
  obtain ⟨hlt, -⟩ := List.getElem?_eq_some_iff.1 h
  rw [List.getElem?_append_left hlt, h]

/-- As long as the dispatcher is there, a job gets the next number and waits. -/
theorem submit_of_alive (h : q.alive = true) (job : Job) : q.submit job = .ok ({ q with
    jobs := q.jobs ++ [job]
    waiting := q.waiting ++ [(q.jobs.length, job)] }, q.jobs.length) := by
  unfold submit
  rw [if_pos h]

/-- Without a dispatcher the job is handed back as it is. -/
theorem submit_of_closed (h : q.alive = false) (job : Job) : q.submit job = .error job := by
  simp [submit, h]

/-- A submission that succeeds has done just that. -/
theorem submit_eq_ok {job : Job} {q' : Queue} {id : JobId} (hs : q.submit job = .ok (q', id)) :
    id = q.jobs.length ∧ q' = { q with
      jobs := q.jobs ++ [job]
      waiting := q.waiting ++ [(q.jobs.length, job)] } := by
  unfold submit at hs
  split at hs
  · cases hs
    exact ⟨rfl, rfl⟩
  · cases hs

/-- A submission that fails hands back the job that was submitted, so nothing of it is lost. -/
theorem submit_eq_error {job job' : Job} (hs : q.submit job = .error job') : job' = job := by
  unfold submit at hs
  split at hs
  · cases hs
  · cases hs
    rfl

/-- A job that is submitted waits behind the others, with a number that no job has had. -/
theorem valid_submit (h : q.Valid) {job : Job} {q' : Queue} {id : JobId}
    (hs : q.submit job = .ok (q', id)) : q'.Valid := by
  obtain ⟨-, rfl⟩ := submit_eq_ok hs
  refine ⟨?_, ?_⟩
  · have hp : ({ q with
        jobs := q.jobs ++ [job],
        waiting := q.waiting ++ [(q.jobs.length, job)] } : Queue).ids.Perm
        (q.jobs.length :: q.ids) := by
      simp only [ids, List.map_append, List.map_cons, List.map_nil, List.append_assoc]
      exact List.perm_middle
    refine hp.trans ?_
    rw [List.length_append, List.length_singleton, List.range_succ]
    exact (h.ids_perm.cons _).trans (List.perm_append_singleton _ _).symm
  · intro e he
    rcases List.mem_append.1 he with hw | hn
    · exact getElem?_append_of_some (h.waits e hw) _
    · obtain rfl := List.mem_singleton.1 hn
      simp

/-- The open jobs after a submission are those from before and the new one. -/
theorem isOpen_submit (h : q.Valid) {job : Job} {q' : Queue} {id : JobId}
    (hs : q.submit job = .ok (q', id)) {i : JobId} {j : Job} :
    q'.IsOpen i j ↔ q.IsOpen i j ∨ i = id ∧ j = job := by
  obtain ⟨rfl, rfl⟩ := submit_eq_ok hs
  constructor
  · rintro ⟨hj, ho⟩
    by_cases hi : i < q.jobs.length
    · exact Or.inl ⟨by rwa [List.getElem?_append_left hi] at hj, ho⟩
    · right
      obtain ⟨hlt, hget⟩ := List.getElem?_eq_some_iff.1 hj
      have hle : i < q.jobs.length + 1 := by simpa using hlt
      obtain rfl : i = q.jobs.length := Nat.le_antisymm (Nat.lt_succ_iff.1 hle) (Nat.not_lt.1 hi)
      exact ⟨rfl, by simpa using hget.symm⟩
  · rintro (⟨hj, ho⟩ | ⟨rfl, rfl⟩)
    · exact ⟨getElem?_append_of_some hj _, ho⟩
    · -- the number is new, so nothing is over under it
      refine ⟨by simp, fun report hover => ?_⟩
      have hmem : q.jobs.length ∈ q.ids :=
        List.mem_append_right _ (List.mem_append_right _
          (List.mem_map_of_mem (f := (·.1)) hover))
      exact Nat.lt_irrefl _ (h.lt_of_mem hmem)

/-- A job that is started leaves the front of those that wait. -/
theorem dispatch_eq_some {q' : Queue} (hd : q.dispatch = some q') :
    ∃ id job later, q.waiting = (id, job) :: later ∧ q' = { q with
      waiting := later
      running := q.running ++ [(id, Worker.start job.files job.folders job.pending)] } := by
  unfold dispatch at hd
  split at hd
  · next id job later hw =>
    split at hd
    · exact ⟨id, job, later, hw, (Option.some.inj hd).symm⟩
    · cases hd
  · cases hd

/-- A job that is started changes its place, and nothing else does. -/
theorem valid_dispatch (h : q.Valid) {q' : Queue} (hd : q.dispatch = some q') : q'.Valid := by
  obtain ⟨id, job, later, hw, rfl⟩ := dispatch_eq_some hd
  refine ⟨?_, fun e he => h.waits e (hw ▸ List.mem_cons_of_mem _ he)⟩
  refine List.Perm.trans ?_ h.ids_perm
  simp only [ids, hw, List.map_append, List.map_cons, List.map_nil, List.append_assoc,
    List.cons_append, List.nil_append]
  exact (List.Perm.append_left _ List.perm_middle).trans List.perm_middle

/-- Whoever runs after a start ran before, or has not done anything yet. -/
theorem mem_running_dispatch {q' : Queue} (hd : q.dispatch = some q') {e : JobId × Worker}
    (he : e ∈ q'.running) :
    e ∈ q.running ∨ ∃ job : Job, e.2 = Worker.start job.files job.folders job.pending := by
  obtain ⟨id, job, later, -, rfl⟩ := dispatch_eq_some hd
  rcases List.mem_append.1 he with hold | hnew
  · exact Or.inl hold
  · obtain rfl := List.mem_singleton.1 hnew
    exact Or.inr ⟨job, rfl⟩

/-! ## Moving and ending -/

/-- A worker that runs is one of those that run, and the others are left when it is taken out. -/
theorem running_perm (h : q.Valid) {id : JobId} {w : Worker} (hw : (id, w) ∈ q.running) :
    (q.running.map (·.1)).Perm
      (id :: (q.running.filter fun e => !(e.1 == id)).map (·.1)) := by
  have hf : (q.running.filter fun e => !(e.1 == id)).map (·.1)
      = (q.running.map (·.1)).erase id := by
    rw [h.running_nodup.erase_eq_filter, List.filter_map]
    rfl
  rw [hf]
  exact List.perm_cons_erase (List.mem_map_of_mem (f := (·.1)) hw)

/-- A job that ends changes its place as well, whichever way it ends. -/
theorem valid_end (h : q.Valid) {id : JobId} {w : Worker} (hw : (id, w) ∈ q.running)
    (outcome : Outcome) :
    ({ q with
      running := q.running.filter fun e => !(e.1 == id)
      outcomes := q.outcomes ++ [(id, outcome)] } : Queue).Valid := by
  refine ⟨?_, h.waits⟩
  refine List.Perm.trans ?_ h.ids_perm
  refine List.Perm.append_left _ ?_
  refine List.Perm.trans ?_ ((running_perm h hw).symm.append_right _)
  simp only [List.map_append, List.map_cons, List.map_nil, ← List.append_assoc]
  exact List.perm_append_singleton _ _

/-- A worker that is replaced keeps its number. -/
theorem map_update_ids (q : Queue) (id : JobId) (w : Worker) :
    (q.running.map fun e => if e.1 == id then (id, w) else e).map (·.1)
      = q.running.map (·.1) := by
  rw [List.map_map]
  apply List.map_congr_left
  intro e _
  by_cases he : e.1 = id <;> simp [he]

/-- When a worker reports back, its job is no longer open, and all others are as they were. -/
theorem isOpen_ended {id : JobId} {w : Worker} (hw : w.stage = .ended) {i : JobId} {j : Job} :
    (q.update id w).IsOpen i j ↔ q.IsOpen i j ∧ i ≠ id := by
  unfold update IsOpen
  rw [hw]
  constructor
  · rintro ⟨hj, ho⟩
    refine ⟨⟨hj, fun report hover => ho report (List.mem_append_left _ hover)⟩, ?_⟩
    rintro rfl
    exact ho w.report (List.mem_append_right _ (List.mem_singleton_self _))
  · rintro ⟨⟨hj, ho⟩, hne⟩
    refine ⟨hj, fun report hover => ?_⟩
    rcases List.mem_append.1 hover with hold | hnew
    · exact ho report hold
    · exact hne (Prod.mk.inj (List.mem_singleton.1 hnew)).1

/-- A worker that does not report back leaves the open jobs as they are. -/
theorem isOpen_update {id : JobId} {w : Worker} (hw : w.stage ≠ .ended) {i : JobId} {j : Job} :
    (q.update id w).IsOpen i j ↔ q.IsOpen i j := by
  unfold update IsOpen
  split
  · next hs => exact absurd hs hw
  · simp
  · rfl

/-- A move of a worker does not change what was submitted. -/
theorem update_jobs (q : Queue) (id : JobId) (w : Worker) : (q.update id w).jobs = q.jobs := by
  unfold update
  split <;> rfl

/-- A move of a worker does not change who waits. -/
theorem update_waiting (q : Queue) (id : JobId) (w : Worker) :
    (q.update id w).waiting = q.waiting := by
  unfold update
  split <;> rfl

/-- A move of a worker does not change whether the dispatcher is there. -/
theorem update_alive (q : Queue) (id : JobId) (w : Worker) : (q.update id w).alive = q.alive := by
  unfold update
  split <;> rfl

/-- What is over after a worker moved was over before, or the worker has ended or died. -/
theorem mem_outcomes_update {id : JobId} {w : Worker} {e : JobId × Outcome} : e ∈ (q.update id w).outcomes ↔
    e ∈ q.outcomes ∨ (w.stage = .ended ∧ e = (id, .reported w.report)) ∨
      (w.stage = .dead ∧ e = (id, .lost)) := by
  unfold update
  split
  · next hs => simp [hs]
  · next hs => simp [hs]
  · next he hd =>
    constructor
    · exact Or.inl
    · rintro (h | ⟨hs, -⟩ | ⟨hs, -⟩)
      · exact h
      · exact absurd hs he
      · exact absurd hs hd

/-- A worker that runs after it moved has neither ended nor died. -/
theorem goes_on {id : JobId} {w : Worker} (h : (id, w) ∈ (q.update id w).running) :
    w.stage ≠ .ended ∧ w.stage ≠ .dead := by
  -- a worker that has ended or died is taken out under its number
  have hnot : (id, w) ∉ q.running.filter fun e => !(e.1 == id) := by simp
  constructor
  · intro hs
    unfold update at h
    rw [hs] at h
    exact hnot h
  · intro hs
    unfold update at h
    rw [hs] at h
    exact hnot h

/-- Whoever runs after a worker moved ran before, or is that worker. -/
theorem mem_running_update {id : JobId} {w : Worker} {e : JobId × Worker}
    (he : e ∈ (q.update id w).running) : e ∈ q.running ∧ e.1 ≠ id ∨ e = (id, w) := by
  have hfilter : e ∈ q.running.filter (fun e => !(e.1 == id)) → e ∈ q.running ∧ e.1 ≠ id :=
    fun hm => ⟨List.mem_of_mem_filter hm, by simpa using List.of_mem_filter hm⟩
  unfold update at he
  split at he
  · exact Or.inl (hfilter he)
  · exact Or.inl (hfilter he)
  · obtain ⟨e', hm, rfl⟩ := List.mem_map.1 he
    by_cases hid : e'.1 = id
    · exact Or.inr (by simp [hid])
    · exact Or.inl ⟨by simpa [hid] using hm, by simp [hid]⟩

/-- All other workers run on as they are. -/
theorem mem_update_of_ne {id : JobId} {w : Worker} {e : JobId × Worker} (he : e ∈ q.running)
    (hne : e.1 ≠ id) : e ∈ (q.update id w).running := by
  have hfilter : e ∈ q.running.filter (fun e => !(e.1 == id)) :=
    List.mem_filter.2 ⟨he, by simpa using hne⟩
  unfold update
  split
  · exact hfilter
  · exact hfilter
  · exact List.mem_map.2 ⟨e, he, by simp [hne]⟩

/-- A worker that is not over runs on. -/
theorem mem_update_self {id : JobId} {w w' : Worker} (hw : (id, w) ∈ q.running)
    (he : w'.stage ≠ .ended) (hd : w'.stage ≠ .dead) : (id, w') ∈ (q.update id w').running := by
  unfold update
  split
  · next hs => exact absurd hs he
  · next hs => exact absurd hs hd
  · exact List.mem_map.2 ⟨(id, w), hw, by simp⟩

/-- A job whose worker moved runs on or is over. -/
theorem valid_update (h : q.Valid) {id : JobId} {w : Worker} (hw : (id, w) ∈ q.running)
    (w' : Worker) : (q.update id w').Valid := by
  unfold update
  split
  · exact valid_end h hw _
  · exact valid_end h hw _
  · refine ⟨?_, h.waits⟩
    unfold ids
    rw [map_update_ids]
    exact h.ids_perm

/-- The end of the dispatcher closes no job. -/
theorem isOpen_kill {i : JobId} {j : Job} : q.kill.IsOpen i j ↔ q.IsOpen i j := by
  simp [IsOpen, kill]

/-- When the dispatcher goes away, the jobs that wait are over. -/
theorem valid_kill (h : q.Valid) : q.kill.Valid := by
  refine ⟨?_, fun _ he => absurd he List.not_mem_nil⟩
  refine List.Perm.trans ?_ h.ids_perm
  simp only [ids, kill, List.map_append, List.map_map, List.map_nil, List.nil_append,
    ← List.append_assoc]
  exact List.perm_append_comm.trans (by rw [List.append_assoc]; exact .refl _)

end PushToTalk.Upload.Queue
