import PushToTalk.Proofs.Registry
import PushToTalk.Proofs.Relay.Step
import PushToTalk.Proofs.SessionFolder
import PushToTalk.Proofs.Upload.Job
import PushToTalk.Proofs.Upload.Queue

/-
  Who owns a session folder.

  A session folder is recorded into, waits to be flushed, is in the hands of one job, or is done
  with; and the registry, which says which of these it is, is not told by the queue which jobs there
  are.  Here the two are brought together.  A folder that is being processed belongs to one open
  job, and an open job's folders are all being processed.  The folder that is being recorded into
  belongs to no job at all.  Nobody else hands folders out: a flush takes only folders that are
  neither, and a worker gives back exactly those of its job.

  `Ownership` speaks of the registry and the queue only, after `n` sessions below `root`.  Each
  operation on the two keeps it; `Relay.owned_run` puts them together.

  1. **Paths** — session folders are compared as paths, piece by piece, which for them is the same
     as equality (`IsSession.beq_iff`).  The files of jobs are entries of session folders, so two
     jobs that list one file share a folder, and are one job (`Ownership.same_job`).

  2. **Starting and stopping** — a new session has a number that no folder has, so its folder is new
     in the registry and nobody's.

  3. **Flushing** — what is eligible belongs to nobody (`Ownership.eligible_spec`), and afterwards
     to the job that was submitted for it (`Ownership.scan`).  If the queue refuses the job, its
     folders are judged at once and belong to nobody again (`Ownership.refused`).

  4. **Queue and workers** — only the end of a worker gives folders back, and they are those of its
     job (`Ownership.ended`).

  5. **Runs** — every move is one of these operations, or quiet.

  The numbers of sessions have 64 bits.  When they are used up, a folder comes a second time, and
  nothing of this is claimed for it (`Owned.ownership`).

  Main statement: `Relay.owned_run`.
-/

namespace PushToTalk

open PushToTalk.Path (IsPlain)
open Upload (Job JobId Queue Worker)

/-- One of the first `n` session folders below `root`. -/
def IsSession (root : Path) (n : Nat) (p : Path) : Prop := ∃ i < n, p = sessionFolder root i

/-- More sessions have more folders. -/
theorem IsSession.mono {root : Path} {m n : Nat} {p : Path} (h : IsSession root m p)
    (hle : m ≤ n) : IsSession root n p := by
  obtain ⟨i, hi, rfl⟩ := h
  exact ⟨i, by omega, rfl⟩

/-- The number of a session folder, where it does not matter how many there are. -/
theorem IsSession.exists_eq {root : Path} {n : Nat} {p : Path} (h : IsSession root n p) :
    ∃ k, p = sessionFolder root k := h.imp fun _ hk => hk.2

/-- Two numbers have two folders. -/
theorem sessionFolder_injective {root : Path} {m n : Nat}
    (h : sessionFolder root m = sessionFolder root n) : m = n :=
  sessionFolder_beq.1 (by rw [h]; exact Path.beq_refl _)

/-- Session folders are the same path only if they are spelled the same. -/
theorem IsSession.beq_iff {root : Path} {m n : Nat} {p q : Path} (hp : IsSession root m p)
    (hq : IsSession root n q) : (p == q) = true ↔ p = q := by
  obtain ⟨i, -, rfl⟩ := hp
  obtain ⟨j, -, rfl⟩ := hq
  rw [sessionFolder_beq]
  constructor
  · rintro rfl
    rfl
  · exact sessionFolder_injective

/-- Session folders are different paths if they are spelled differently. -/
theorem IsSession.beq_false_iff {root : Path} {m n : Nat} {p q : Path} (hp : IsSession root m p)
    (hq : IsSession root n q) : (p == q) = false ↔ p ≠ q := by
  rw [← Bool.not_eq_true, hp.beq_iff hq]

/-- How the registry and the queue stand to each other after `n` sessions below `root`. -/
structure Ownership (root : Path) (n : Nat) (reg : Registry) (q : Queue) : Prop where
  queue : q.Valid
  /-- Workers work on the jobs that were submitted. -/
  serves : ∀ e ∈ q.running, ∃ job, q.jobs[e.1]? = some job ∧ e.2.Serves job
  listed : ∀ job ∈ q.jobs, job.IsListing
  jobSession : ∀ job ∈ q.jobs, ∀ p ∈ job.folders, IsSession root n p
  session : ∀ f ∈ reg.folders, IsSession root n f.path
  distinct : reg.Distinct
  /-- The folder being recorded into is the last one, and no job ever had it. -/
  active : ∀ a, reg.active = some a → (∃ i, i + 1 = n ∧ a = sessionFolder root i) ∧
    (∃ f ∈ reg.folders, f.path = a ∧ f.state = .recording) ∧ ∀ job ∈ q.jobs, a ∉ job.folders
  /-- An open job's folders are being processed. -/
  held : ∀ id job, q.IsOpen id job → ∀ p ∈ job.folders,
    ∃ f ∈ reg.folders, f.path = p ∧ f.state = .processing
  /-- No folder belongs to two open jobs. -/
  single : ∀ id job, q.IsOpen id job → ∀ id' job', q.IsOpen id' job' →
    ∀ p ∈ job.folders, p ∈ job'.folders → id = id'
  /-- A folder that is being processed belongs to an open job. -/
  owned : ∀ f ∈ reg.folders, f.state = .processing → ∃ id job, q.IsOpen id job ∧
    f.path ∈ job.folders

namespace Ownership

variable {root : Path} {n : Nat} {reg : Registry} {q : Queue}

/-- A path is registered once. -/
theorem unique (h : Ownership root n reg q) {f g : Folder} (hf : f ∈ reg.folders)
    (hg : g ∈ reg.folders) (hp : f.path = g.path) : f = g :=
  h.distinct.unique hf hg (by rw [hp]; exact Path.beq_refl _)

/-- The folder that is being recorded into, as the registry tells it. -/
theorem isActive_iff (h : Ownership root n reg q) {f : Folder} (hf : f ∈ reg.folders) :
    reg.isActive f.path = true ↔ reg.active = some f.path := by
  unfold Registry.isActive
  cases ha : reg.active with
  | none => simp
  | some a =>
    obtain ⟨⟨i, hi, rfl⟩, -, -⟩ := h.active a ha
    -- paths are compared piece by piece, which for session folders is equality
    have hs : IsSession root n (sessionFolder root i) := ⟨i, by omega, rfl⟩
    rw [hs.beq_iff (h.session f hf)]
    exact ⟨fun e => e ▸ rfl, fun e => Option.some.inj e⟩

/-- Every file of a job lies right inside one of its folders. -/
theorem isClosed (h : Ownership root n reg q) {job : Job} (hj : job ∈ q.jobs) :
    job.IsClosed := by
  intro file hfile
  obtain ⟨folder, hfolder, name, hname, rfl⟩ := h.listed job hj file hfile
  obtain ⟨i, -, rfl⟩ := h.jobSession job hj folder hfolder
  exact ⟨_, hfolder, Path.parent?_child (isPlain_sessionName i) hname⟩

/-- Files of jobs are the same path only if they are spelled the same; they lie in one folder
then. -/
theorem same_folder (h : Ownership root n reg q) {job job' : Job} (hj : job ∈ q.jobs)
    (hj' : job' ∈ q.jobs) {file file' : Path} (hf : file ∈ job.files) (hf' : file' ∈ job'.files)
    (he : (file == file') = true) :
    file = file' ∧ ∃ folder, folder ∈ job.folders ∧ folder ∈ job'.folders := by
  obtain ⟨folder, hfolder, name, hname, rfl⟩ := h.listed job hj file hf
  obtain ⟨folder', hfolder', name', hname', rfl⟩ := h.listed job' hj' file' hf'
  obtain ⟨hb, rfl⟩ := (Path.child_beq_child hname hname').1 he
  obtain rfl := ((h.jobSession job hj folder hfolder).beq_iff
    (h.jobSession job' hj' folder' hfolder')).1 hb
  exact ⟨rfl, folder, hfolder, hfolder'⟩

/-- A file that two open jobs list is a file of one job. -/
theorem same_job (h : Ownership root n reg q) {id id' : JobId} {job job' : Job}
    (ho : q.IsOpen id job) (ho' : q.IsOpen id' job') {file file' : Path} (hf : file ∈ job.files)
    (hf' : file' ∈ job'.files) (he : (file == file') = true) : id = id' := by
  obtain ⟨-, folder, hm, hm'⟩ := h.same_folder (List.mem_of_getElem? ho.1)
    (List.mem_of_getElem? ho'.1) hf hf' he
  exact h.single id job ho id' job' ho' folder hm hm'

/-! ## Starting and stopping -/

/-- A session that starts has the next number, so its folder is none of those that there are, and
no job has ever had it. -/
theorem start (h : Ownership root n reg q) :
    Ownership root (n + 1) (reg.beginRecording (sessionFolder root n)) q where
  queue := h.queue
  serves := h.serves
  listed := h.listed
  jobSession job hj p hp := (h.jobSession job hj p hp).mono (Nat.le_succ n)
  session f hf := by
    rcases List.mem_append.1 hf with hold | hnew
    · exact (h.session f hold).mono (Nat.le_succ n)
    · obtain rfl := List.mem_singleton.1 hnew
      exact ⟨n, Nat.lt_succ_self n, rfl⟩
  distinct := by
    refine List.pairwise_append.2 ⟨h.distinct, List.pairwise_singleton _ _, ?_⟩
    intro f hf g hg
    obtain rfl := List.mem_singleton.1 hg
    obtain ⟨i, hi, hp⟩ := h.session f hf
    have hne : ¬ i = n := by omega
    rw [hp, ← Bool.not_eq_true]
    exact fun he => hne (sessionFolder_beq.1 he)
  -- the new folder is the one that is recorded into
  active a ha := by
    obtain rfl := Option.some.inj ha
    refine ⟨⟨n, rfl, rfl⟩,
      ⟨_, List.mem_append_right _ (List.mem_singleton_self _), rfl, rfl⟩, fun job hj hm => ?_⟩
    obtain ⟨i, hi, hp⟩ := h.jobSession job hj _ hm
    have hin : n = i := sessionFolder_injective hp
    omega
  held id job ho p hp := by
    obtain ⟨f, hf, hfp, hfs⟩ := h.held id job ho p hp
    exact ⟨f, List.mem_append_left _ hf, hfp, hfs⟩
  single := h.single
  owned f hf hs := by
    rcases List.mem_append.1 hf with hold | hnew
    · exact h.owned f hold hs
    · obtain rfl := List.mem_singleton.1 hnew
      cases hs

/-- When a session stops, its folder belongs to nobody. -/
theorem stop (h : Ownership root n reg q) : Ownership root n reg.endRecording q :=
  { h with active := fun a ha => by cases ha }

/-! ## Flushing -/

/-- The folders that a flush takes. -/
theorem mem_eligible (reg : Registry) {p : Path} :
    p ∈ reg.eligible ↔ ∃ f ∈ reg.folders, reg.isEligible f = true ∧ f.path = p := by
  simp only [Registry.eligible, List.mem_map, List.mem_filter, and_assoc]

/-- What is registered after a scan was registered before, is not done with, and is being
processed now if it was eligible. -/
theorem mem_afterScan {reg : Registry} {f' : Folder} (hf : f' ∈ reg.afterScan.folders) :
    ∃ f ∈ reg.folders, f.state ≠ .finishedSuccessfully ∧ f'.path = f.path ∧
      ((reg.isEligible f = true ∧ f'.state = .processing) ∨
        (reg.isEligible f = false ∧ f' = f)) := by
  simp only [Registry.afterScan, List.mem_map, List.mem_filter] at hf
  obtain ⟨f, ⟨hf, hs⟩, rfl⟩ := hf
  refine ⟨f, hf, by simpa using hs, ?_, ?_⟩
  · split <;> rfl
  · cases he : reg.isEligible f with
    | true => exact Or.inl ⟨rfl, by simp⟩
    | false => exact Or.inr ⟨rfl, by simp⟩

/-- What was not eligible comes through a scan as it was, unless it was done with. -/
theorem afterScan_of_not_eligible {reg : Registry} {f : Folder} (hf : f ∈ reg.folders)
    (hs : f.state ≠ .finishedSuccessfully) (he : reg.isEligible f = false) :
    f ∈ reg.afterScan.folders := by
  simp only [Registry.afterScan, List.mem_map, List.mem_filter]
  exact ⟨f, ⟨hf, by simpa using hs⟩, by simp [he]⟩

/-- What was eligible is being processed. -/
theorem afterScan_of_eligible {reg : Registry} {f : Folder} (hf : f ∈ reg.folders)
    (he : reg.isEligible f = true) :
    { f with state := .processing } ∈ reg.afterScan.folders := by
  have hs : (f.state != .finishedSuccessfully) = true := by
    simp only [Registry.isEligible, Bool.and_eq_true] at he
    exact he.1.1
  simp only [Registry.afterScan, List.mem_map, List.mem_filter]
  exact ⟨f, ⟨hf, hs⟩, by simp [he]⟩

/-- What is being processed is not handed out again. -/
theorem not_eligible_of_processing {reg : Registry} {f : Folder} (hs : f.state = .processing) :
    reg.isEligible f = false := by
  simp [Registry.isEligible, hs]

/-- A scan registers nothing twice, since it changes no path. -/
theorem distinct_afterScan (h : reg.Distinct) : reg.afterScan.Distinct := by
  have hf : (reg.folders.filter fun f => f.state != .finishedSuccessfully).Pairwise
      fun f g => (f.path == g.path) = false := List.Pairwise.filter _ h
  unfold Registry.Distinct Registry.afterScan
  rw [List.pairwise_map]
  refine hf.imp fun {a b} hab => ?_
  split <;> split <;> exact hab

/-- Session folders are all that is registered, before a scan and after it. -/
theorem session_afterScan (h : Ownership root n reg q) :
    ∀ f ∈ reg.afterScan.folders, IsSession root n f.path := by
  intro f' hf'
  obtain ⟨f, hf, -, hp, -⟩ := mem_afterScan hf'
  rw [hp]
  exact h.session f hf

/-- The folders of a flush, and nobody's folders that they are. -/
theorem eligible_spec (h : Ownership root n reg q) {p : Path} (hp : p ∈ reg.eligible) :
    IsSession root n p ∧ reg.active ≠ some p ∧
      ∀ id job, q.IsOpen id job → p ∉ job.folders := by
  obtain ⟨f, hf, he, rfl⟩ := (mem_eligible reg).1 hp
  simp only [Registry.isEligible, Bool.and_eq_true, bne_iff_ne, ne_eq, Bool.not_eq_true'] at he
  obtain ⟨⟨-, hproc⟩, hact⟩ := he
  refine ⟨h.session f hf, fun ha => ?_, fun id job ho hm => ?_⟩
  · rw [(h.isActive_iff hf).2 ha] at hact
    cases hact
  · obtain ⟨g, hg, hgp, hgs⟩ := h.held id job ho f.path hm
    exact hproc (h.unique hf hg hgp.symm ▸ hgs)

/-- A folder that is not handed out by a scan stays registered as it was. -/
theorem mem_afterScan_of_not_mem {reg : Registry} {f : Folder} (hf : f ∈ reg.folders)
    (hs : f.state ≠ .finishedSuccessfully) (hp : f.path ∉ reg.eligible) :
    f ∈ reg.afterScan.folders := by
  refine afterScan_of_not_eligible hf hs ?_
  cases he : reg.isEligible f with
  | false => rfl
  | true => exact absurd ((mem_eligible reg).2 ⟨f, hf, he, rfl⟩) hp

/-- The files of a flush lie in its folders. -/
theorem isListing_flush (h : Ownership root n reg q) (d : Disk) (pending : PendingTicks) :
    (⟨d.recordings reg.eligible, reg.eligible, pending⟩ : Job).IsListing := by
  intro file hfile
  obtain ⟨folder, hfolder, hin⟩ := mem_recordings.1 hfile
  obtain ⟨⟨i, -, rfl⟩, -, -⟩ := h.eligible_spec hfolder
  obtain ⟨name, entries, hname, rfl, -⟩ := recordingsIn_spec hin
  exact ⟨_, hfolder, name, hname, rfl⟩

/-- The folder being recorded into comes through a scan. -/
theorem active_afterScan (h : Ownership root n reg q) {a : Path} (ha : reg.active = some a) :
    ∃ f ∈ reg.afterScan.folders, f.path = a ∧ f.state = .recording := by
  obtain ⟨-, ⟨f, hf, rfl, hs⟩, -⟩ := h.active a ha
  have hnot : f.path ∉ reg.eligible := fun hp => (h.eligible_spec hp).2.1 ha
  exact ⟨f, mem_afterScan_of_not_mem hf (by rw [hs]; decide) hnot, rfl, hs⟩

/-- A flush hands its folders to a job of their own. -/
theorem scan (h : Ownership root n reg q) {d : Disk} {pending : PendingTicks} {q' : Queue}
    {id : JobId}
    (hs : q.submit ⟨d.recordings reg.eligible, reg.eligible, pending⟩ = .ok (q', id)) :
    Ownership root n reg.afterScan q' := by
  have hopen := @Queue.isOpen_submit q h.queue _ q' id hs
  have hvalid := Queue.valid_submit h.queue hs
  obtain ⟨rfl, rfl⟩ := Queue.submit_eq_ok hs
  have hjobs : ∀ job, job ∈ q.jobs ++ [⟨d.recordings reg.eligible, reg.eligible, pending⟩] ↔
      job ∈ q.jobs ∨ job = ⟨d.recordings reg.eligible, reg.eligible, pending⟩ := by simp
  -- the parts of the invariant in their order; those about jobs ask whether the job is the new one
  refine ⟨hvalid, ?_, ?_, ?_, ?_, distinct_afterScan h.distinct, ?_, ?_, ?_, ?_⟩
  · intro e he
    obtain ⟨job, hj, hserves⟩ := h.serves e he
    exact ⟨job, Queue.getElem?_append_of_some hj _, hserves⟩
  · intro job hj
    rcases (hjobs job).1 hj with hold | rfl
    · exact h.listed job hold
    · exact h.isListing_flush d pending
  · intro job hj p hp
    rcases (hjobs job).1 hj with hold | rfl
    · exact h.jobSession job hold p hp
    · exact (h.eligible_spec hp).1
  · exact h.session_afterScan
  · intro a ha
    obtain ⟨hlast, -, hnojob⟩ := h.active a ha
    refine ⟨hlast, h.active_afterScan ha, fun job hj hm => ?_⟩
    rcases (hjobs job).1 hj with hold | rfl
    · exact hnojob job hold hm
    · exact (h.eligible_spec hm).2.1 ha
  · intro i job ho p hp
    rcases hopen.1 ho with hold | ⟨rfl, rfl⟩
    · obtain ⟨f, hf, hfp, hfs⟩ := h.held i job hold p hp
      refine ⟨f, afterScan_of_not_eligible hf (by rw [hfs]; decide) ?_, hfp, hfs⟩
      exact not_eligible_of_processing hfs
    · obtain ⟨f, hf, he, rfl⟩ := (mem_eligible reg).1 hp
      exact ⟨_, afterScan_of_eligible hf he, rfl, rfl⟩
  · -- two jobs share a folder: both are old, or one is new and has no folder of an open job
    intro i job ho i' job' ho' p hp hp'
    rcases hopen.1 ho with hold | ⟨rfl, rfl⟩ <;> rcases hopen.1 ho' with hold' | ⟨rfl, rfl⟩
    · exact h.single i job hold i' job' hold' p hp hp'
    · exact absurd hp ((h.eligible_spec hp').2.2 i job hold)
    · exact absurd hp' ((h.eligible_spec hp).2.2 i' job' hold')
    · rfl
  · -- a folder that is being processed was handed out just now, or before
    intro f hf hs
    obtain ⟨g, hg, -, hp, hcase⟩ := mem_afterScan hf
    rcases hcase with ⟨he, -⟩ | ⟨-, rfl⟩
    · refine ⟨_, _, hopen.2 (Or.inr ⟨rfl, rfl⟩), ?_⟩
      exact (mem_eligible reg).2 ⟨g, hg, he, hp.symm⟩
    · obtain ⟨i, job, ho, hm⟩ := h.owned f hg hs
      exact ⟨i, job, hopen.2 (Or.inl ho), hm⟩

/-! ## Being done with folders -/

/-- A job that is done changes the folders with exactly its paths. -/
theorem judged {f f' : Folder} {paths : List Path} (hj : Registry.Judges paths f f')
    (hf : IsSession root n f.path) (hp : ∀ p ∈ paths, IsSession root n p) :
    f'.path = f.path ∧ (f.path ∈ paths → f'.state.IsFinished) ∧ (f.path ∉ paths → f' = f) := by
  obtain ⟨hpath, hin, hout⟩ := hj
  refine ⟨hpath, fun hm => hin ⟨f.path, hm, Path.beq_refl _⟩, fun hm => hout fun p hpm => ?_⟩
  rw [hf.beq_false_iff (hp p hpm)]
  rintro rfl
  exact hm hpm

/-- When the queue refuses a flush its folders are judged at once, and stay nobody's. -/
theorem refused (h : Ownership root n reg q) (d : Disk) :
    Ownership root n (Registry.finish d reg.afterScan reg.eligible).2 q := by
  have hd : reg.afterScan.Distinct := distinct_afterScan h.distinct
  obtain ⟨hactive, g, hg, hj⟩ := Registry.finish_judges d hd reg.eligible
  have hsession : ∀ f ∈ reg.afterScan.folders, IsSession root n f.path := h.session_afterScan
  have hjudged := fun f hf => judged (hj f hf) (hsession f hf) fun p hp => (h.eligible_spec hp).1
  -- who was not handed out is still there
  have hkeep : ∀ f ∈ reg.folders, f.state ≠ .finishedSuccessfully → f.path ∉ reg.eligible →
      f ∈ (Registry.finish d reg.afterScan reg.eligible).2.folders := by
    intro f hf hs hp
    have hscan := mem_afterScan_of_not_mem hf hs hp
    rw [hg]
    exact List.mem_map.2 ⟨f, hscan, (hjudged f hscan).2.2 hp⟩
  refine { h with session := ?_, distinct := ?_, active := ?_, held := ?_, owned := ?_ }
  · intro f' hf'
    rw [hg] at hf'
    obtain ⟨f, hf, rfl⟩ := List.mem_map.1 hf'
    rw [(hjudged f hf).1]
    exact hsession f hf
  · exact hd.of_map (fun f hf => (hjudged f hf).1) hg
  · intro a ha
    rw [hactive] at ha
    obtain ⟨hlast, ⟨f, hf, rfl, hs⟩, hnojob⟩ := h.active a ha
    have hnot : f.path ∉ reg.eligible := fun hp => (h.eligible_spec hp).2.1 ha
    exact ⟨hlast, ⟨f, hkeep f hf (by rw [hs]; decide) hnot, rfl, hs⟩, hnojob⟩
  · intro id job ho p hp
    obtain ⟨f, hf, rfl, hs⟩ := h.held id job ho p hp
    have hnot : f.path ∉ reg.eligible := fun he => (h.eligible_spec he).2.2 id job ho hp
    exact ⟨f, hkeep f hf (by rw [hs]; decide) hnot, rfl, hs⟩
  · intro f' hf' hs
    rw [hg] at hf'
    obtain ⟨f, hf, rfl⟩ := List.mem_map.1 hf'
    obtain ⟨hpath, hfin, hsame⟩ := hjudged f hf
    by_cases hp : f.path ∈ reg.eligible
    · exact absurd hs (hfin hp).ne_processing
    · rw [hsame hp] at hs ⊢
      obtain ⟨f₀, hf₀, -, hp₀, hcase⟩ := mem_afterScan hf
      rcases hcase with ⟨he, -⟩ | ⟨-, rfl⟩
      · exact absurd ((mem_eligible reg).2 ⟨f₀, hf₀, he, hp₀.symm⟩) hp
      · exact h.owned f hf₀ hs

/-! ## Queue and workers -/

/-- A worker that is started serves its job, and nobody's folders change hands. -/
theorem dispatch (h : Ownership root n reg q) {q' : Queue} (hd : q.dispatch = some q') :
    Ownership root n reg q' := by
  have hvalid := Queue.valid_dispatch h.queue hd
  obtain ⟨id, job, later, hw, rfl⟩ := Queue.dispatch_eq_some hd
  refine { h with queue := hvalid, serves := ?_ }
  intro e he
  rcases List.mem_append.1 he with hold | hnew
  · exact h.serves e hold
  · obtain rfl := List.mem_singleton.1 hnew
    have hmem : (id, job) ∈ q.waiting := by
      rw [hw]
      exact List.mem_cons_self
    exact ⟨job, h.queue.waits (id, job) hmem, Worker.serves_start job⟩

/-- The end of the dispatcher closes no job, so whoever had a folder has it for good. -/
theorem kill (h : Ownership root n reg q) : Ownership root n reg q.kill :=
  { h with
    queue := Queue.valid_kill h.queue
    held := fun id job ho => h.held id job (Queue.isOpen_kill.1 ho)
    single := fun id job ho id' job' ho' =>
      h.single id job (Queue.isOpen_kill.1 ho) id' job' (Queue.isOpen_kill.1 ho')
    owned := fun f hf hs => by
      obtain ⟨id, job, ho, hm⟩ := h.owned f hf hs
      exact ⟨id, job, Queue.isOpen_kill.2 ho, hm⟩ }

/-- The job of a worker that runs. -/
theorem job_of_running (h : Ownership root n reg q) {id : JobId} {w : Worker}
    (hw : (id, w) ∈ q.running) : ∃ job, q.IsOpen id job ∧ w.Serves job ∧ job.IsClosed := by
  obtain ⟨job, hj, hs⟩ := h.serves _ hw
  refine ⟨job, h.queue.isOpen hj (Or.inr (List.mem_map_of_mem (f := (·.1)) hw)), hs, ?_⟩
  exact h.isClosed (List.mem_of_getElem? hj)

/-- Two workers at one file are one. -/
theorem same_worker (h : Ownership root n reg q) {id id' : JobId} {w w' : Worker}
    (hw : (id, w) ∈ q.running) (hw' : (id', w') ∈ q.running) {file : Path}
    (hf : w.stage.file? = some file) (hf' : w'.stage.file? = some file) : id = id' ∧ w = w' := by
  obtain ⟨job, ho, hserves, -⟩ := h.job_of_running hw
  obtain ⟨job', ho', hserves', -⟩ := h.job_of_running hw'
  obtain rfl := h.same_job ho ho' (hserves.files file (Worker.mem_ahead_of_stage hf))
    (hserves'.files file (Worker.mem_ahead_of_stage hf')) (Path.beq_refl file)
  exact ⟨rfl, h.queue.worker_unique hw hw'⟩

/-- The other workers serve their jobs as before. -/
theorem serves_update (h : Ownership root n reg q) {id : JobId} {w' : Worker} {job : Job}
    (hj : q.jobs[id]? = some job) (hs : w'.Serves job) :
    ∀ e ∈ (q.update id w').running,
      ∃ job, (q.update id w').jobs[e.1]? = some job ∧ e.2.Serves job := by
  intro e he
  rw [Queue.update_jobs]
  rcases Queue.mem_running_update he with ⟨hold, -⟩ | rfl
  · exact h.serves e hold
  · exact ⟨job, hj, hs⟩

/-- A worker that moves on or dies leaves the registry as it is. -/
theorem moved (h : Ownership root n reg q) {id : JobId} {w w' : Worker} {job : Job}
    (hw : (id, w) ∈ q.running) (hj : q.jobs[id]? = some job) (hs : w'.Serves job)
    (he : w'.stage ≠ .ended) : Ownership root n reg (q.update id w') where
  queue := Queue.valid_update h.queue hw w'
  serves := h.serves_update hj hs
  listed := by
    rw [Queue.update_jobs]
    exact h.listed
  jobSession := by
    rw [Queue.update_jobs]
    exact h.jobSession
  session := h.session
  distinct := h.distinct
  active := by
    rw [Queue.update_jobs]
    exact h.active
  held i j ho := h.held i j ((Queue.isOpen_update he).1 ho)
  single i j ho i' j' ho' :=
    h.single i j ((Queue.isOpen_update he).1 ho) i' j' ((Queue.isOpen_update he).1 ho')
  owned f hf hp := by
    obtain ⟨i, j, ho, hm⟩ := h.owned f hf hp
    exact ⟨i, j, (Queue.isOpen_update he).2 ho, hm⟩

/-- A worker that reports back gives up the folders of its job, and those only. -/
theorem ended (h : Ownership root n reg q) {id : JobId} {w w' : Worker} {job : Job}
    (hw : (id, w) ∈ q.running) (hj : q.jobs[id]? = some job) (hs : w'.Serves job)
    (he : w'.stage = .ended) (d : Disk) :
    Ownership root n (Registry.finish d reg job.folders).2 (q.update id w') := by
  have hjob : job ∈ q.jobs := List.mem_of_getElem? hj
  have hopen : q.IsOpen id job :=
    h.queue.isOpen hj (Or.inr (List.mem_map_of_mem (f := (·.1)) hw))
  obtain ⟨hactive, g, hg, hjudge⟩ := Registry.finish_judges d h.distinct job.folders
  have hjudged := fun f hf => judged (hjudge f hf) (h.session f hf) (h.jobSession job hjob)
  -- the folders of other jobs are none of this one, and come through
  have hkeep : ∀ f ∈ reg.folders, f.path ∉ job.folders →
      f ∈ (Registry.finish d reg job.folders).2.folders := by
    intro f hf hp
    rw [hg]
    exact List.mem_map.2 ⟨f, hf, (hjudged f hf).2.2 hp⟩
  refine ⟨Queue.valid_update h.queue hw w', h.serves_update hj hs, ?_, ?_, ?_, ?_, ?_, ?_, ?_, ?_⟩
  · rw [Queue.update_jobs]
    exact h.listed
  · rw [Queue.update_jobs]
    exact h.jobSession
  · intro f' hf'
    rw [hg] at hf'
    obtain ⟨f, hf, rfl⟩ := List.mem_map.1 hf'
    rw [(hjudged f hf).1]
    exact h.session f hf
  · exact h.distinct.of_map (fun f hf => (hjudged f hf).1) hg
  · intro a ha
    rw [hactive] at ha
    rw [Queue.update_jobs]
    obtain ⟨hlast, ⟨f, hf, rfl, hrec⟩, hnojob⟩ := h.active a ha
    exact ⟨hlast, ⟨f, hkeep f hf (hnojob job hjob), rfl, hrec⟩, hnojob⟩
  · intro i j ho p hp
    obtain ⟨ho, hne⟩ := (Queue.isOpen_ended he).1 ho
    obtain ⟨f, hf, rfl, hproc⟩ := h.held i j ho p hp
    exact ⟨f, hkeep f hf fun hm => hne (h.single i j ho id job hopen _ hp hm), rfl, hproc⟩
  · intro i j ho i' j' ho'
    exact h.single i j ((Queue.isOpen_ended he).1 ho).1 i' j' ((Queue.isOpen_ended he).1 ho').1
  · -- a folder that is still being processed is none of this job, so another open job has it
    intro f' hf' hproc
    rw [hg] at hf'
    obtain ⟨f, hf, rfl⟩ := List.mem_map.1 hf'
    obtain ⟨hpath, hfin, hsame⟩ := hjudged f hf
    by_cases hp : f.path ∈ job.folders
    · exact absurd hproc (hfin hp).ne_processing
    · rw [hsame hp] at hproc ⊢
      obtain ⟨i, j, ho, hm⟩ := h.owned f hf hproc
      refine ⟨i, j, (Queue.isOpen_ended he).2 ⟨ho, ?_⟩, hm⟩
      rintro rfl
      exact hp (Option.some.inj (ho.1.symm.trans hj) ▸ hm)

end Ownership

namespace Relay

/-- Sessions are numbered without gaps, and as long as the numbers of 64 bits last, the registry
and the queue agree on who owns which folder. -/
structure Owned (r : Relay) : Prop where
  numbered : r.nextSession = UInt64.ofNat r.starts
  ownership : r.starts ≤ UInt64.size → Ownership r.options.root r.starts r.station.folders r.queue

/-- In the beginning there are no sessions, no folders and no jobs. -/
theorem owned_startOn (disk : Disk) (options : Options) (settings : Settings)
    (recorder : Recorder) : (startOn disk options settings recorder).Owned where
  numbered := rfl
  ownership _ :=
    { queue := Upload.Queue.valid_start _
      serves := fun _ he => absurd he List.not_mem_nil
      listed := fun _ hj => absurd hj List.not_mem_nil
      jobSession := fun _ hj => absurd hj List.not_mem_nil
      session := fun _ hf => absurd hf List.not_mem_nil
      distinct := List.Pairwise.nil
      active := fun _ ha => by cases ha
      held := fun _ _ ho => by cases ho.1
      single := fun _ _ ho => by cases ho.1
      owned := fun _ hf => absurd hf List.not_mem_nil }

variable {r : Relay}

/-- A quiet change touches neither numbers, nor folders, nor the queue. -/
theorem Owned.quiet {r r' : Relay} (hq : Quiet r r') (h : r.Owned) : r'.Owned := by
  have hstarts : r'.starts = r.starts := starts_eq hq.toggles
  refine ⟨by rw [hq.nextSession, hstarts]; exact h.numbered, fun hle => ?_⟩
  rw [hq.options, hq.folders, hq.queue, hstarts]
  exact h.ownership (hstarts ▸ hle)

/-- The number of the next session is the number of sessions so far. -/
theorem Owned.next (h : r.Owned) (hlt : r.starts < UInt64.size) : r.nextSession.toNat = r.starts := by
  rw [h.numbered]
  exact UInt64.toNat_ofNat_of_lt' hlt

/-- The start of a session is the start of the next one. -/
theorem Owned.startSession (h : r.Owned) : r.startSession.Owned := by
  refine ⟨?_, fun hle => ?_⟩
  · rw [starts_startSession]
    show r.nextSession + 1 = _
    rw [h.numbered, UInt64.ofNat_add]
    rfl
  · rw [starts_startSession] at hle ⊢
    have hown := (h.ownership (by omega)).start
    rw [← h.next (by omega)] at hown ⊢
    exact hown

/-- The end of a session. -/
theorem Owned.endSession (h : r.Owned) : r.endSession.Owned := by
  refine ⟨by rw [starts_endSession]; exact h.numbered, fun hle => ?_⟩
  rw [starts_endSession] at hle ⊢
  exact (h.ownership hle).stop

/-- A flush, whether the queue takes the job or refuses it. -/
theorem Owned.flush (h : r.Owned) : r.flush.1.Owned := by
  rcases flush_cases r with ⟨queue, id, hs, he⟩ | he
  · rw [he]
    exact ⟨h.numbered, fun hle => (h.ownership hle).scan hs⟩
  · rw [he]
    exact ⟨h.numbered, fun hle => (h.ownership hle).refused r.station.disk⟩

/-- Recording touches the disk only. -/
theorem Owned.record (h : r.Owned) (name : String) (node : Disk.Node) :
    (r.record name node).Owned := by
  rcases record_cases r name node with he | ⟨folder, disk, -, -, he⟩
  · rwa [he]
  · rw [he]
    exact ⟨h.numbered, h.ownership⟩

/-- The start of a worker. -/
theorem Owned.dispatch (h : r.Owned) : r.dispatch.Owned := by
  rcases dispatch_cases r with he | ⟨queue, hd, he⟩
  · rwa [he]
  · rw [he]
    exact ⟨h.numbered, fun hle => (h.ownership hle).dispatch hd⟩

/-- A step of a worker, of which the last one gives the folders back. -/
theorem Owned.advance (h : r.Owned) (id : JobId) : (r.advance id).Owned := by
  rcases advance_cases r id with he | ⟨w, s', w', hrun, hadv, he⟩
  · rwa [he]
  rw [he]
  refine ⟨h.numbered, fun hle => ?_⟩
  have hown := h.ownership hle
  obtain ⟨job, ho, hserves, hclosed⟩ := hown.job_of_running hrun
  have hserves' := hserves.advance hclosed hadv
  -- the last step, or one that leaves the folders alone
  rcases hadv.folders with ⟨hend, rfl, -⟩ | ⟨hend, hfolders⟩
  · rw [hserves.folders]
    exact hown.ended hrun ho.1 hserves' hend r.station.disk
  · show Ownership r.options.root r.starts s'.folders _
    rw [hfolders]
    exact hown.moved hrun ho.1 hserves' hend

/-- The end of an exchange never touches folders. -/
theorem Owned.answerWorker (h : r.Owned) (id : JobId) (answer : Answer) :
    (r.answerWorker id answer).Owned := by
  rcases answerWorker_cases r id answer with
    he | ⟨w, s', w', request, file, hrun, -, -, hrec, he⟩
  · rwa [he]
  rw [he]
  refine ⟨h.numbered, fun hle => ?_⟩
  have hown := h.ownership hle
  obtain ⟨job, ho, hserves, hclosed⟩ := hown.job_of_running hrun
  show Ownership r.options.root r.starts s'.folders _
  rw [hrec.folders.2]
  exact hown.moved hrun ho.1 (hserves.receive hclosed hrec) hrec.folders.1

/-- Every move keeps the numbers of the sessions and the owners of the folders. -/
theorem upholds_owned (m : Move) (r : Relay) : Upholds Owned r m where
  quiet := Owned.quiet
  start := Owned.startSession
  stop := Owned.endSession
  flush := Owned.flush
  record _ h := h.record _ _
  dispatch _ h := h.dispatch
  advance _ h := h.advance _
  answer _ h := h.answerWorker _ _
  close _ h := ⟨h.numbered, fun hle => (h.ownership hle).kill⟩

/-- In every state of a run the registry and the queue agree on who owns which folder. -/
theorem owned_run (disk : Disk) (options : Options) (settings : Settings) (recorder : Recorder)
    (moves : List Move) : ((startOn disk options settings recorder).run moves).Owned :=
  run_keeps (fun m _ => upholds_owned m) (owned_startOn disk options settings recorder)

end Relay

end PushToTalk
