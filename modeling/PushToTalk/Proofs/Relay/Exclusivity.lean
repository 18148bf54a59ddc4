import PushToTalk.Proofs.Relay.Ownership

/-
  Session folders are exclusive.

  Detector and workers share the registry and the disk, and nothing but the state of a folder keeps
  them out of each other's way.  That this is enough is shown here, whatever they do and in whatever
  order.  A folder is being processed as long as exactly one job that has not reported back holds
  it.  The folder being recorded into is no job's.  And no two such jobs have a file in common,
  however its path is spelled.

  1. **In every state** — `Exclusive` is read off the invariant of `Relay.Ownership`, in terms of
     paths and of open jobs alone.

  2. **No job is lost** — a job whose worker dies, or that is lost with the dispatcher, has no one
     to give its folders back, and they stay as they are for good.  Where neither happens
     (`Move.LosesNoJob`), every open job waits or runs (`NoneLost.busy`), so an idle queue means
     that no folder is being processed.

  Sessions are numbered with 64 bits, and the statement is about runs in which the numbers last;
  afterwards two sessions can have one folder.

  Main statement: `Relay.folders_exclusive`.
-/

namespace PushToTalk

open Upload (Job JobId Queue Worker)

/-- Nobody shares a session folder. -/
structure Exclusive (reg : Registry) (q : Queue) : Prop where
  /-- The registered paths are pairwise distinct. -/
  distinct : reg.folders.Pairwise fun f g => (f.path == g.path) = false
  /-- The folder being recorded into is registered as such, and no job ever had it. -/
  active : ∀ a, reg.active = some a →
    (∃ f ∈ reg.folders, (f.path == a) = true ∧ f.state = .recording) ∧
      ∀ job ∈ q.jobs, ∀ p ∈ job.folders, (p == a) = false
  /-- A folder is being processed if and only if one open job, and no second one, lists it. -/
  processing : ∀ f ∈ reg.folders, f.state = .processing ↔
    ∃! id, ∃ job, q.IsOpen id job ∧ ∃ p ∈ job.folders, (p == f.path) = true
  /-- A worker will report back the folders of its job. -/
  workers : ∀ id w, (id, w) ∈ q.running → ∃ job, q.IsOpen id job ∧ w.folders = job.folders
  /-- Different open jobs list different files. -/
  files : ∀ id job, q.IsOpen id job → ∀ id' job', q.IsOpen id' job' → id ≠ id' →
    ∀ file ∈ job.files, ∀ file' ∈ job'.files, (file == file') = false

/-- Who owns which folder is told apart by path, so nobody shares one. -/
theorem Ownership.exclusive {root : Path} {n : Nat} {reg : Registry} {q : Queue}
    (h : Ownership root n reg q) : Exclusive reg q where
  distinct := h.distinct
  active a ha := by
    obtain ⟨⟨i, hi, rfl⟩, ⟨f, hf, hp, hs⟩, hnojob⟩ := h.active a ha
    refine ⟨⟨f, hf, by rw [hp]; exact Path.beq_refl _, hs⟩, fun job hj p hp => ?_⟩
    have hlast : IsSession root n (sessionFolder root i) := ⟨i, by omega, rfl⟩
    rw [(h.jobSession job hj p hp).beq_false_iff hlast]
    rintro rfl
    exact hnojob job hj hp
  processing f hf := by
    constructor
    · intro hs
      obtain ⟨id, job, ho, hm⟩ := h.owned f hf hs
      refine ⟨id, ⟨job, ho, f.path, hm, Path.beq_refl _⟩, ?_⟩
      -- whoever else has the folder names it by the same path, and only one job does
      rintro id' ⟨job', ho', p, hp, hb⟩
      have hsession := h.jobSession job' (List.mem_of_getElem? ho'.1) p hp
      obtain rfl := (hsession.beq_iff (h.session f hf)).1 hb
      exact h.single id' job' ho' id job ho f.path hp hm
    · rintro ⟨id, ⟨job, ho, p, hp, hb⟩, -⟩
      obtain ⟨g, hg, rfl, hs⟩ := h.held id job ho p hp
      rwa [← h.distinct.unique hg hf hb]
  workers id w hw := by
    obtain ⟨job, ho, hserves, -⟩ := h.job_of_running hw
    exact ⟨job, ho, hserves.folders⟩
  files id job ho id' job' ho' hne file hf file' hf' := by
    cases hb : file == file' with
    | false => rfl
    | true => exact absurd (h.same_job ho ho' hf hf' hb) hne

/-! ## No job is lost -/

/-- The dispatcher stays, and no worker dies. -/
def Move.LosesNoJob : Move → Prop
  | .closeQueue => False
  | .answer _ .death => False
  | _ => True

/-- Every job that is over has reported back. -/
def Upload.Queue.NoneLost (q : Queue) : Prop :=
  ∀ e ∈ q.outcomes, ∃ report, e.2 = .reported report

/-- A worker that goes on or reports back loses no job. -/
theorem Upload.Queue.NoneLost.update {q : Queue} (h : q.NoneLost) (id : JobId) {w : Worker}
    (hw : w.stage ≠ .dead) : (q.update id w).NoneLost := by
  unfold Queue.update
  split
  · intro e he
    rcases List.mem_append.1 he with hold | hnew
    · exact h e hold
    · obtain rfl := List.mem_singleton.1 hnew
      exact ⟨_, rfl⟩
  · next hs => exact absurd hs hw
  · exact h

/-- Where no job is lost, every open job waits or runs. -/
theorem Upload.Queue.NoneLost.busy {q : Queue} (h : q.NoneLost) (hv : q.Valid) {id : JobId}
    {job : Job} (ho : q.IsOpen id job) :
    id ∈ q.waiting.map (·.1) ∨ id ∈ q.running.map (·.1) := by
  obtain ⟨hlt, -⟩ := List.getElem?_eq_some_iff.1 ho.1
  have hid : id ∈ q.ids := hv.ids_perm.mem_iff.2 (List.mem_range.2 hlt)
  -- every number is that of a job that waits, runs, or is over; and what is over has reported, so
  -- it is not open
  rcases List.mem_append.1 hid with hw | hrest
  · exact Or.inl hw
  rcases List.mem_append.1 hrest with hr | hover
  · exact Or.inr hr
  · obtain ⟨⟨_, outcome⟩, he, rfl⟩ := List.mem_map.1 hover
    obtain ⟨report, rfl⟩ := h _ he
    exact absurd he (ho.2 report)

namespace Relay

/-- A move that loses no job leaves none lost. -/
theorem upholds_noneLost {m : Move} (hm : m.LosesNoJob) (r : Relay) :
    Upholds (fun r => r.queue.NoneLost) r m where
  quiet hq h := by rwa [hq.queue]
  start h := h
  stop h := h
  flush {r} h := by
    rcases flush_cases r with ⟨queue, id, hs, he⟩ | he
    · rw [he]
      obtain ⟨-, rfl⟩ := Queue.submit_eq_ok hs
      exact h
    · rw [he]
      exact h
  record {name node} _ h := by
    rcases record_cases r name node with he | ⟨folder, disk, -, -, he⟩ <;> rw [he] <;> exact h
  dispatch _ h := by
    rcases dispatch_cases r with he | ⟨queue, hd, he⟩
    · rwa [he]
    · rw [he]
      obtain ⟨id, job, later, -, rfl⟩ := Queue.dispatch_eq_some hd
      exact h
  advance {id} _ h := by
    rcases advance_cases r id with he | ⟨w, s', w', -, hadv, he⟩
    · rwa [he]
    · rw [he]
      exact h.update _ hadv.ne_dead
  answer {id answer} hmove h := by
    -- the death of a worker is what loses a job, and this move is none
    have hne : answer ≠ .death := by
      rintro rfl
      rw [hmove] at hm
      exact hm
    rcases answerWorker_cases r id answer with
      he | ⟨w, s', w', request, file, -, -, -, hrec, he⟩
    · rwa [he]
    · rw [he]
      exact h.update _ (hrec.ne_dead hne)
  close he _ := by
    rw [he] at hm
    exact hm.elim

/-- In every state of a run no session folder is shared, and where no job is lost, an idle queue
means that no folder is being processed. -/
theorem folders_exclusive (disk : Disk) (options : Options) (settings : Settings)
    (recorder : Recorder) (moves : List Move)
    (hn : ((startOn disk options settings recorder).run moves).starts ≤ UInt64.size) :
    Exclusive ((startOn disk options settings recorder).run moves).station.folders
        ((startOn disk options settings recorder).run moves).queue ∧
      ((∀ m ∈ moves, m.LosesNoJob) →
        ((startOn disk options settings recorder).run moves).queue.waiting = [] →
        ((startOn disk options settings recorder).run moves).queue.running = [] →
        ∀ f ∈ ((startOn disk options settings recorder).run moves).station.folders.folders,
          f.state ≠ .processing) := by
  have hown := (owned_run disk options settings recorder moves).ownership hn
  refine ⟨hown.exclusive, fun hm hw hr f hf hs => ?_⟩
  have hlost : ((startOn disk options settings recorder).run moves).queue.NoneLost :=
    run_keeps (fun m hmem => upholds_noneLost (hm m hmem)) fun e he => absurd he List.not_mem_nil
  obtain ⟨id, job, ho, -⟩ := hown.owned f hf hs
  rcases hlost.busy hown.queue ho with h | h
  · rw [hw] at h
    exact absurd h List.not_mem_nil
  · rw [hr] at h
    exact absurd h List.not_mem_nil

/-- In the sample run no session folder is shared. -/
theorem folders_exclusive_sample : (sample.run sampleMoves).starts ≤ UInt64.size ∧
    Exclusive (sample.run sampleMoves).station.folders (sample.run sampleMoves).queue := by
  have hn : (sample.run sampleMoves).starts ≤ UInt64.size :=
    Nat.le_trans (starts_run_le sample sampleMoves) (by decide)
  exact ⟨hn, (folders_exclusive _ _ _ _ _ hn).1⟩

end Relay

end PushToTalk
