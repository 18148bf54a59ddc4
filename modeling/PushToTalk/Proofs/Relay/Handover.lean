import PushToTalk.Proofs.Fetch
import PushToTalk.Proofs.Relay.History

/-
  What a flush hands over.

  A flush is the only place where folders, files and tick requests pass from the detector to the
  upload side.  What later happens to a recording is traced back to it: to which flush a job
  belongs, which requests the job has got, and where these come from.

  1. **Jobs** — the jobs of the queue are the jobs of the flushes that the queue took, in order
     (`Step.jobs`, `History.jobs_prefix`).  So every job is that of a flush (`History.job_origin`).

  2. **Tick requests** — `Requests` lists the five things that a step can do to requests and
     fetches: a flush takes all requests, a speech starts a fetch, a fetch goes out, a fetch is
     answered, or nothing of this happens.  Each statement about requests is proved by these cases.

  3. **Histories** — an unused request was started by the first speech of its user since the flush
     before (`History.pending_origin`).  What a fetch was answered stays its answer
     (`History.answer_final`), so it does not matter when a worker asks for it.

  A flush takes the requests even if the queue refuses its job, and then nobody gets them; nothing
  here says that they arrive.

  Main statements: `History.job_origin`, `History.pending_origin` and `History.answer_final`.
-/

namespace PushToTalk

open Upload (Job JobId Queue)

namespace Relay

variable {r r' : Relay} {m : Move}

/-! ## Jobs -/

/-- Only a flush adds a job, and only as long as the queue takes it. -/
theorem Step.jobs (h : r.Step m r') : r'.queue.jobs = r.queue.jobs ∨
    (r.flushesOn m = true ∧ r'.queue.jobs = r.queue.jobs ++ [r.flushJob]) := by
  cases h with
  | quiet _ _ hq => exact Or.inl (by rw [hq.queue])
  | start _ _ he => exact Or.inl (by rw [he]; rfl)
  | stop _ _ he => exact Or.inl (by rw [he]; rfl)
  -- a queue that is closed refuses the job, and then none is added
  | flush hm hq =>
    rw [hq.queue]
    rcases flush_cases r with ⟨queue, id, hs, he⟩ | he
    · rw [he]
      obtain ⟨-, rfl⟩ := Queue.submit_eq_ok hs
      exact Or.inr ⟨hm, rfl⟩
    · rw [he]
      exact Or.inl rfl
  | record _ he =>
    rw [he]
    rcases record_cases r _ _ with he | ⟨folder, disk, -, -, he⟩ <;> rw [he] <;> exact Or.inl rfl
  | dispatch _ he =>
    rw [he]
    rcases dispatch_cases r with he | ⟨queue, hd, he⟩ <;> rw [he]
    · exact Or.inl rfl
    · obtain ⟨id, job, later, -, rfl⟩ := Queue.dispatch_eq_some hd
      exact Or.inl rfl
  | advance _ he =>
    rw [he]
    rcases advance_cases r _ with he | ⟨w, s', w', -, -, he⟩ <;> rw [he]
    · exact Or.inl rfl
    · exact Or.inl (Queue.update_jobs _ _ _)
  | answer _ he =>
    rw [he]
    rcases answerWorker_cases r _ _ with he | ⟨w, s', w', request, file, -, -, -, -, he⟩ <;>
      rw [he]
    · exact Or.inl rfl
    · exact Or.inl (Queue.update_jobs _ _ _)
  | close _ he => exact Or.inl (by rw [he]; rfl)

/-! ## Tick requests -/

/-- What a step does to the fetches and the unused tick requests. -/
inductive Requests (r : Relay) (m : Move) (r' : Relay) : Prop
  /-- A flush takes all requests. -/
  | taken (hm : r.flushesOn m = true) (hp : r'.pending = .empty) (hf : r'.fetches = r.fetches)
  /-- The first speech of a user since a flush took theirs starts a fetch. -/
  | started {user : UserId} {now : Instant} (name : String) (hm : m = .speech user now)
      (hnew : r.pending.has user = false)
      (hp : r'.pending = r.pending.put user ⟨name, r.fetches.states.size⟩)
      (hf : r'.fetches = r.fetches.launch.1)
  /-- A fetch goes to the backend. -/
  | promoted {id : FetchId} (hm : r.flushesOn m = false) (hp : r'.pending = r.pending)
      (hf : r.fetches.promote = some (r'.fetches, id))
  /-- A fetch is answered. -/
  | settled {id : FetchId} {answer : Answer} (hm : r.flushesOn m = false)
      (hp : r'.pending = r.pending) (hs : r.fetches.states.get? id = some .underway)
      (hf : r'.fetches = r.fetches.settle id answer)
  | none (hm : r.flushesOn m = false) (hp : r'.pending = r.pending)
      (hf : r'.fetches = r.fetches)

/-- Speech starts a fetch for a user without a request, under the name that they have then. -/
theorem reportSpeech_cases (r : Relay) (user : UserId) (now : Instant) :
    (r.pending.has user = true ∧ (r.reportSpeech user now).pending = r.pending ∧
      (r.reportSpeech user now).fetches = r.fetches) ∨
    (r.pending.has user = false ∧
      (r.reportSpeech user now).pending = r.pending.put user
        ⟨((r.station.users.markSpeaking user now).record user).name, r.fetches.states.size⟩ ∧
      (r.reportSpeech user now).fetches = r.fetches.launch.1) := by
  unfold reportSpeech
  dsimp only
  cases hnew : r.pending.has user with
  | true => exact Or.inl ⟨rfl, rfl, rfl⟩
  | false => exact Or.inr ⟨rfl, rfl, rfl⟩

/-- A flush leaves no request behind and touches no fetch, whether or not the queue takes its
job. -/
theorem flush_requests (r : Relay) :
    r.flush.1.pending = .empty ∧ r.flush.1.fetches = r.fetches := by
  rcases flush_cases r with ⟨queue, id, -, he⟩ | he <;> rw [he] <;> exact ⟨rfl, rfl⟩

/-- Whatever a step does to fetches and requests is one of the listed ways. -/
theorem requests_move (hm : m.IsStep) (r : Relay) : Requests r m (r.move m) := by
  cases m with
  | setName user name => exact .none rfl rfl rfl
  -- for a user who has a request already no other fetch is started
  | speech user now =>
    rcases reportSpeech_cases r user now with ⟨-, hp, hf⟩ | ⟨hnew, hp, hf⟩
    · exact .none rfl hp hf
    · exact .started _ rfl hnew hp hf
  | sweep now => exact .none rfl rfl rfl
  | toggle was =>
    show Requests r _ (r.toggleIfEdge was)
    unfold toggleIfEdge
    split <;> exact .none rfl rfl rfl
  | notify => exact .none rfl rfl rfl
  | flush => exact .taken rfl (flush_requests r).1 (flush_requests r).2
  | flushIfStopped =>
    show Requests r _ r.flushIfStopped.1
    unfold flushIfStopped
    cases hs : r.stopped with
    | true => exact .taken hs (flush_requests r.takeStopped).1 (flush_requests r.takeStopped).2
    | false => exact .none hs rfl rfl
  | poll was now => cases hm
  | record name node =>
    show Requests r _ (r.record name node)
    rcases record_cases r name node with he | ⟨folder, disk, -, -, he⟩ <;> rw [he] <;>
      exact .none rfl rfl rfl
  | fetch =>
    show Requests r _ r.promote
    unfold promote
    split
    · next fetches id hf => exact .promoted rfl rfl hf
    · exact .none rfl rfl rfl
  | tick id answer =>
    show Requests r _ (r.settleFetch id answer)
    unfold settleFetch
    split
    · next hs => exact .settled rfl rfl hs rfl
    · exact .none rfl rfl rfl
  | dispatch =>
    show Requests r _ r.dispatch
    rcases dispatch_cases r with he | ⟨queue, -, he⟩ <;> rw [he] <;> exact .none rfl rfl rfl
  | advance id =>
    show Requests r _ (r.advance id)
    rcases advance_cases r id with he | ⟨w, s', w', -, -, he⟩ <;> rw [he] <;>
      exact .none rfl rfl rfl
  | answer id answer =>
    show Requests r _ (r.answerWorker id answer)
    rcases answerWorker_cases r id answer with he | ⟨w, s', w', request, file, -, -, -, -, he⟩ <;>
      rw [he] <;> exact .none rfl rfl rfl
  | closeQueue => exact .none rfl rfl rfl

/-- Answers are never taken back, and the fetches stay numbered. -/
theorem Requests.fetches (h : Requests r m r') (hn : r.fetches.Numbered) :
    r'.fetches.Numbered ∧ r.fetches.Goes r'.fetches := by
  have hsame : ∀ {f : Fetches}, f = r.fetches → f.Numbered ∧ r.fetches.Goes f := by
    rintro _ rfl
    exact ⟨hn, fun _ _ ha => ha⟩
  cases h with
  | taken _ _ hf => exact hsame hf
  | started _ _ _ _ hf => exact hf ▸ hn.launch
  | promoted _ _ hf => exact hn.promote hf
  | settled _ _ hs hf => exact hf ▸ hn.settle hs _
  | none _ _ hf => exact hsame hf

end Relay

namespace History

variable {h : History} {i j : Nat} {m : Move} {user : UserId}

/-- The job of a flush in step `i`. -/
def jobAt (h : History) (i : Nat) : Job := (h.after i).flushJob

/-- The first speech of a user since a flush took their request starts a fetch in step `i`. -/
def FetchesAt (h : History) (i : Nat) (user : UserId) (fetch : FetchId) : Prop :=
  (∃ now, h.steps[i]? = some (.speech user now)) ∧ (h.after i).pending.has user = false ∧
    fetch = (h.after i).fetches.states.size

/-- What a step of a history does to fetches and requests is one of the listed ways. -/
theorem requests_at (hm : h.steps[i]? = some m) :
    (h.after i).Requests m (h.after (i + 1)) :=
  after_succ hm ▸ Relay.requests_move (isStep_of_getElem? hm) _

/-- Fetches have the numbers in which they were started, at any time. -/
theorem numbered_after (h : History) (i : Nat) : (h.after i).fetches.Numbered :=
  h.keeps (P := fun r => r.fetches.Numbered) (i := 0) (Fetches.Numbered.start _)
    (fun _ hm hn => ((requests_at hm).fetches hn).1) (Nat.zero_le i)

/-- What a fetch was answered at some time is its answer in the end. -/
theorem answer_final {id : FetchId} {a : Answer} (ha : (h.after i).fetches.answer? id = some a) :
    h.final.fetches.answer? id = some a :=
  h.keeps_final (P := fun r => r.fetches.answer? id = some a) ha
    fun _ hm ha => ((requests_at hm).fetches (numbered_after h _)).2 id a ha

/-- Jobs are never taken back. -/
theorem jobs_prefix (h : History) (hij : i ≤ j) :
    (h.after i).queue.jobs <+: (h.after j).queue.jobs :=
  h.keeps (P := fun r => (h.after i).queue.jobs <+: r.queue.jobs) (List.prefix_refl _)
    (fun _ hm hp => by
      rcases (step_at hm).jobs with he | ⟨-, he⟩ <;> rw [he]
      · exact hp
      · exact hp.trans (List.prefix_append _ _)) hij

/-- Every job is that of a flush. -/
theorem job_origin {job : Job} (hj : job ∈ (h.after i).queue.jobs) :
    ∃ k < i, h.FlushesAt k ∧ job = h.jobAt k := by
  refine h.keeps_from (i := 0) (P := fun i => job ∈ (h.after i).queue.jobs →
    ∃ k < i, h.FlushesAt k ∧ job = h.jobAt k) ?_ ?_ ?_ (Nat.zero_le i) hj
  · intro hj
    exact absurd hj List.not_mem_nil
  · -- a job is an old one, or it is that of the flush in this step
    intro i m _ hm ih hj
    have hold : job ∈ (h.after i).queue.jobs →
        ∃ k < i + 1, h.FlushesAt k ∧ job = h.jobAt k := fun hj => by
      obtain ⟨k, hk, horigin⟩ := ih hj
      exact ⟨k, by omega, horigin⟩
    rcases (step_at hm).jobs with he | ⟨hflush, he⟩
    · exact hold (he ▸ hj)
    · rw [he] at hj
      rcases List.mem_append.1 hj with hj | hnew
      · exact hold hj
      · exact ⟨i, Nat.lt_succ_self i, ⟨m, hm, hflush⟩, List.mem_singleton.1 hnew⟩
  · intro i hm ih hj
    rw [after_succ_of_none hm] at hj
    obtain ⟨k, hk, horigin⟩ := ih hj
    exact ⟨k, by omega, horigin⟩

/-- Every unused request was started by the first speech of its user since the last flush. -/
theorem pending_origin {request : PendingTick}
    (hp : (h.after i).pending.get? user = some request) :
    ∃ k < i, h.FetchesAt k user request.fetch ∧
      ∀ l, k < l → l < i → ¬ h.FlushesAt l := by
  refine h.keeps_from (i := 0) (P := fun i => (h.after i).pending.get? user = some request →
    ∃ k < i, h.FetchesAt k user request.fetch ∧ ∀ l, k < l → l < i → ¬ h.FlushesAt l)
    ?_ ?_ ?_ (Nat.zero_le i) hp
  · intro hp
    cases hp
  · intro i m _ hm ih hp
    -- a request that was there before is still there, as no flush took it
    have hold : (h.after i).flushesOn m = false → (h.after i).pending.get? user = some request →
        ∃ k < i + 1, h.FetchesAt k user request.fetch ∧
          ∀ l, k < l → l < i + 1 → ¬ h.FlushesAt l := fun hno hp => by
      obtain ⟨k, hk, hfetch, hsince⟩ := ih hp
      refine ⟨k, by omega, hfetch, fun l hkl hl => ?_⟩
      rcases Nat.lt_succ_iff_lt_or_eq.1 hl with hl | rfl
      · exact hsince l hkl hl
      · rintro ⟨m', hm', hflush⟩
        obtain rfl : m = m' := Option.some.inj (hm.symm.trans hm')
        rw [hno] at hflush
        cases hflush
    cases requests_at hm with
    | taken _ he _ =>
      rw [he] at hp
      cases hp
    | @started user' now name hspeech hnew he _ =>
      rw [he, Table.get?_put] at hp
      by_cases hu : user' = user
      · subst hu hspeech
        rw [if_pos (beq_self_eq_true user')] at hp
        obtain rfl := Option.some.inj hp
        refine ⟨i, Nat.lt_succ_self i, ⟨⟨now, hm⟩, hnew, rfl⟩, fun l hl hl' => ?_⟩
        omega
      · rw [if_neg (by simpa using hu)] at hp
        subst hspeech
        exact hold rfl hp
    | promoted hno he _ => exact hold hno (he ▸ hp)
    | settled hno he _ _ => exact hold hno (he ▸ hp)
    | none hno he _ => exact hold hno (he ▸ hp)
  · intro i hm ih hp
    rw [after_succ_of_none hm] at hp
    obtain ⟨k, hk, hfetch, hsince⟩ := ih hp
    refine ⟨k, by omega, hfetch, fun l hkl hl => ?_⟩
    rcases Nat.lt_succ_iff_lt_or_eq.1 hl with hl | rfl
    · exact hsince l hkl hl
    · rintro ⟨m', hm', -⟩
      rw [hm] at hm'
      cases hm'

end History

end PushToTalk
