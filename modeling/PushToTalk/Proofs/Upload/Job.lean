import PushToTalk.Proofs.Registry
import PushToTalk.Proofs.Upload.Step
import PushToTalk.Upload.Queue

/-
  A worker keeps to its job.

  The relay gives a folder to a job when it flushes, and takes it back when the worker of the job
  reports.  In between nobody but that worker may touch the folder, and the worker may touch no
  other.  That is shown here for one worker: the folders of its files are among the folders that its
  job names, so a worker reports back the folders of the job and no others, and it never takes up a
  file that the job does not list.

  1. **Jobs** — the folders of a job cover its files (`Job.IsClosed`).  A flush makes only such
     jobs, and nothing else is asked of a job here.

  2. **Serving** — `Serves` says that the worker has the folders of its job, and only files of it
     before it.  It holds at the start and is kept by every step (`Serves.advance`) and every end of
     an exchange (`Serves.receive`).  Without the first condition a worker would add a folder to its
     list on the way (`handled_of_mem`).

  3. **Touching** — folders are touched in the last step only, and the disk by a deletion or in the
     last step.  These facts spare the other modules a look at all stages.

  Main statements: `Serves.advance` and `Serves.receive`.
-/

namespace PushToTalk.Upload

/-- The folder that each file of the job names as its parent is one of the job's. -/
def Job.IsClosed (job : Job) : Prop :=
  ∀ file ∈ job.files, ∃ folder ∈ job.folders, file.parent? = some folder

/-- Every file of the job is an entry of one of its folders. -/
def Job.IsListing (job : Job) : Prop :=
  ∀ file ∈ job.files, ∃ folder ∈ job.folders, ∃ name,
    Path.IsPlain name ∧ file = folder.child name

namespace Worker

/-- The files that a worker has before it: the one it is busy with and those not begun. -/
def ahead (w : Worker) : List Path := w.stage.file?.toList ++ w.todo

/-- The worker works on the job. -/
structure Serves (w : Worker) (job : Job) : Prop where
  folders : w.folders = job.folders
  files : ∀ file ∈ w.ahead, file ∈ job.files

/-- A worker begins with all files and folders of its job. -/
theorem serves_start (job : Job) :
    (Worker.start job.files job.folders job.pending).Serves job :=
  ⟨rfl, fun _ hf => hf⟩

/-- The folder of a file of the job is in the list already, so it is not added. -/
theorem addFolder_of_mem {w : Worker} {file folder : Path} (hp : file.parent? = some folder)
    (hm : folder ∈ w.folders) : w.addFolder file = w := by
  have hany : w.folders.any (· == folder) = true :=
    List.any_eq_true.2 ⟨folder, hm, Path.beq_refl folder⟩
  simp [addFolder, hp, hany]

/-- Being done with such a file changes the stage and the report, and nothing else. -/
theorem handled_of_mem {w : Worker} {file folder : Path} (report : Report)
    (hp : file.parent? = some folder) (hm : folder ∈ w.folders) :
    w.handled file report = { w with stage := .idle, report } := by
  unfold handled
  exact addFolder_of_mem (w := { w with stage := .idle, report }) hp hm

variable {w w' : Worker} {job : Job} {s s' : Station}

/-- A worker that moves on within its file still serves its job. -/
theorem Serves.withStage (h : w.Serves job) (stage : Stage)
    (hf : ∀ file, stage.file? = some file → file ∈ w.ahead) :
    ({ w with stage } : Worker).Serves job := by
  refine ⟨h.folders, fun file hm => ?_⟩
  rcases List.mem_append.1 hm with hs | ht
  · exact h.files file (hf file (Option.mem_toList.1 hs))
  · exact h.files file (List.mem_append_right _ ht)

/-- A worker that is done with a file of its job still serves the job. -/
theorem Serves.handled (h : w.Serves job) (hj : job.IsClosed) {file : Path}
    (hf : file ∈ job.files) (report : Report) : (w.handled file report).Serves job := by
  obtain ⟨folder, hm, hp⟩ := hj file hf
  rw [handled_of_mem report hp (h.folders ▸ hm)]
  exact ⟨h.folders, fun file hm => h.files file (List.mem_append_right _ hm)⟩

/-- The file that a worker is busy with is before it. -/
theorem mem_ahead_of_stage {file : Path} (h : w.stage.file? = some file) : file ∈ w.ahead :=
  List.mem_append_left _ (by rw [h]; exact List.mem_singleton_self _)

/-- Giving up on a file is one way to be done with it. -/
theorem Serves.fail (h : w.Serves job) (hj : job.IsClosed) (s : Station) {d : Delivery}
    (hs : w.stage.file? = some d.file) : (Worker.fail s w d).2.Serves job :=
  h.handled hj (h.files _ (mem_ahead_of_stage hs)) _

/-- The file that is begun was the first of those not begun, so it is one of the job. -/
theorem Serves.begin (h : w.Serves job) (hj : job.IsClosed) {file : Path} {later : List Path}
    (hs : w.stage = .idle) (ht : w.todo = file :: later)
    (hb : Begins s { w with todo := later } file w') : w'.Serves job := by
  have hahead : w.ahead = file :: later := by simp [ahead, hs, ht, Stage.file?]
  have hfile : file ∈ job.files := h.files file (by rw [hahead]; exact List.mem_cons_self)
  have hlater : ({ w with todo := later } : Worker).Serves job := by
    refine ⟨h.folders, fun f hf => h.files f ?_⟩
    rw [hahead]
    refine List.mem_cons_of_mem _ ?_
    simpa [ahead, hs, Stage.file?] using hf
  -- a file that is begun is the only one that the new stage can name
  have hstage : ∀ stage : Stage, stage.file? = some file →
      ({ w with todo := later, stage } : Worker).Serves job := by
    intro stage hst
    refine ⟨h.folders, fun f hf => h.files f ?_⟩
    rw [hahead]
    simpa [ahead, hst] using hf
  cases hb with
  | skip => exact hlater.handled hj hfile _
  | read => exact hstage _ rfl
  | await => exact hstage _ rfl

/-- A worker that makes a step of its own still serves its job. -/
theorem Serves.advance (h : w.Serves job) (hj : job.IsClosed) {answer? : FetchId → Option Answer}
    (ha : Advances answer? s w s' w') : w'.Serves job := by
  cases ha with
  | begin hs ht hb => exact h.begin hj hs ht hb
  -- at the end no file is left
  | finish hs ht => exact ⟨h.folders, fun f hf => absurd hf (by simp [ahead, ht, Stage.file?])⟩
  | resolve hs _ =>
    refine ⟨h.folders, fun f hf => h.files f ?_⟩
    simpa [ahead, resolve, hs, Stage.file?] using hf
  | read hs _ =>
    refine h.withStage _ fun f hf => mem_ahead_of_stage ?_
    simpa [hs, Stage.file?] using hf
  | unread hs _ => exact h.fail hj s (by rw [hs]; rfl)
  | close hs =>
    refine h.withStage _ fun f hf => mem_ahead_of_stage ?_
    simpa [hs, Stage.file?] using hf
  | clear hs => exact h.handled hj (h.files _ (mem_ahead_of_stage (by rw [hs]; rfl))) _

/-- Sending the chunks of a file, or closing it where there is none, is still about that file. -/
theorem file?_sendFrom (d : Delivery) (fileId : String) (index : Nat) (chunks : List Bytes) :
    (sendFrom d fileId index chunks).file? = some d.file := by
  cases chunks <;> rfl

/-- A worker whose exchange ends still serves its job. -/
theorem Serves.receive (h : w.Serves job) (hj : job.IsClosed) {answer : Answer}
    (hr : Receives s w answer s' w') : w'.Serves job := by
  cases hr with
  | created hs _ =>
    refine h.withStage _ fun f hf => mem_ahead_of_stage ?_
    rw [file?_sendFrom] at hf
    simpa [hs, Stage.file?] using hf
  | unnamed hs _ => exact h.fail hj s (by rw [hs]; rfl)
  | sent hs =>
    refine h.withStage _ fun f hf => mem_ahead_of_stage ?_
    rw [file?_sendFrom] at hf
    simpa [hs, Stage.file?] using hf
  | verdict hs =>
    refine h.withStage _ fun f hf => mem_ahead_of_stage ?_
    simpa [hs, Stage.file?] using hf
  | broken hs =>
    refine h.fail hj s ?_
    rcases hs with ⟨chunks, hs⟩ | ⟨fileId, index, chunk, later, hs⟩ | ⟨fileId, topic, hs⟩ <;>
      rw [hs] <;> rfl
  | died => exact h.withStage _ fun f hf => absurd hf (by simp [Stage.file?])

/-! ## Reporting back -/

/-- Only the last step of a worker touches the folders, and they are the ones it reports back. -/
theorem Advances.folders {answer? : FetchId → Option Answer} (ha : Advances answer? s w s' w') :
    (w'.stage = .ended ∧ s' = s.finish w.folders ∧ w'.folders = w.folders) ∨
      (w'.stage ≠ .ended ∧ s'.folders = s.folders) := by
  cases ha with
  | begin hs ht hb =>
    refine Or.inr ⟨?_, rfl⟩
    cases hb with
    | skip => simp
    | read => exact Stage.noConfusion
    | await => exact Stage.noConfusion
  | finish hs ht => exact Or.inl ⟨rfl, rfl, rfl⟩
  | resolve => exact Or.inr ⟨Stage.noConfusion, rfl⟩
  | read => exact Or.inr ⟨Stage.noConfusion, rfl⟩
  | unread => exact Or.inr ⟨by simp, rfl⟩
  | close => exact Or.inr ⟨Stage.noConfusion, rfl⟩
  | clear => exact Or.inr ⟨by simp, Station.delete_folders s _⟩

/-- A worker that goes on sending a file has not ended. -/
theorem sendFrom_ne_ended (d : Delivery) (fileId : String) (index : Nat) (chunks : List Bytes) :
    sendFrom d fileId index chunks ≠ .ended := by
  cases chunks <;> exact Stage.noConfusion

/-- No end of an exchange touches the folders. -/
theorem Receives.folders {answer : Answer} (hr : Receives s w answer s' w') :
    w'.stage ≠ .ended ∧ s'.folders = s.folders := by
  cases hr with
  | created => exact ⟨sendFrom_ne_ended _ _ _ _, rfl⟩
  | unnamed => exact ⟨by simp, rfl⟩
  | sent => exact ⟨sendFrom_ne_ended _ _ _ _, rfl⟩
  | verdict => exact ⟨Stage.noConfusion, rfl⟩
  | broken => exact ⟨by simp, rfl⟩
  | died => exact ⟨Stage.noConfusion, rfl⟩

/-! ## Touching the disk -/

/-- Only the deletion of a file and the end of a job reach the disk. -/
theorem Advances.disk {answer? : FetchId → Option Answer} (ha : Advances answer? s w s' w') :
    s'.disk = s.disk ∨ s' = s.finish w.folders ∨
      ∃ file verdict, w.stage = .clearing file verdict ∧ s' = s.delete file := by
  cases ha with
  | begin => exact Or.inl rfl
  | finish => exact Or.inr (Or.inl rfl)
  | resolve => exact Or.inl rfl
  | read => exact Or.inl rfl
  | unread => exact Or.inl rfl
  | close => exact Or.inl rfl
  | clear hs => exact Or.inr (Or.inr ⟨_, _, hs, rfl⟩)

/-- No end of an exchange reaches the disk. -/
theorem Receives.disk {answer : Answer} (hr : Receives s w answer s' w') :
    s'.disk = s.disk := by
  cases hr <;> rfl

/-! ## Dying -/

/-- No step of its own kills a worker. -/
theorem Advances.ne_dead {answer? : FetchId → Option Answer} (ha : Advances answer? s w s' w') :
    w'.stage ≠ .dead := by
  cases ha with
  | begin hs ht hb =>
    cases hb with
    | skip => simp
    | read => exact Stage.noConfusion
    | await => exact Stage.noConfusion
  | unread => simp
  | clear => simp
  | _ => exact Stage.noConfusion

/-- A worker dies only in an exchange that kills it. -/
theorem Receives.ne_dead {answer : Answer} (hr : Receives s w answer s' w')
    (ha : answer ≠ .death) : w'.stage ≠ .dead := by
  cases hr with
  | @created d chunks _ fileId => cases chunks <;> exact Stage.noConfusion
  | unnamed => simp
  | @sent d fileId _ index _ later => cases later <;> exact Stage.noConfusion
  | verdict => exact Stage.noConfusion
  | broken => simp
  | died => exact absurd rfl ha

end Worker

end PushToTalk.Upload
