import PushToTalk.Proofs.Disk.Root
import PushToTalk.Proofs.Relay.Ownership

/-
  The disk under a run of the relay.

  Whatever the relay does to the disk it does to session folders, one at a time: it makes an entry
  in one or deletes one, is done with a folder, or starts a session in it.  So whatever property of
  the disk lasts through these four operations lasts through every run.  That is shown here once,
  for any property `Q`; the modules that follow only say what the four operations do to the property
  that they need.

  1. **What lasts** — `Disk.Lasting` collects the four.  For a property that no operation on a
     session folder ends, the first three come from what is known of single folders
     (`lasting_of_keeps`).

  2. **Standing** — the invariant of a run: the registry and the queue agree on the folders, so the
     folders that are touched are session folders, and the disk has the property.  The first part
     has to be there, because a worker touches what its job tells it to (`file_of_running`).

  What the root must be like for a property to hold at the beginning is told elsewhere.

  Main statements: `upholds_standing` and `Standing.run`.
-/

namespace PushToTalk

open Upload (Job JobId Queue Worker)
open Disk (KeepsTo Rooted Grounded Suits)

/-- What lasts whatever happens to session folders: an entry is made or deleted in one, a job is
done with one, a session starts in one. -/
structure Disk.Lasting (root : Path) (Q : Disk → Prop) : Prop where
  make : ∀ {n : Nat} {name : String} {node : Disk.Node} {d d' : Disk},
    d.make ((sessionFolder root n).child name) node = .ok d' → Q d → Q d'
  delete : ∀ {n : Nat} {name : String} (s : Station), Path.IsPlain name → Q s.disk →
    Q (s.delete ((sessionFolder root n).child name)).disk
  judge : ∀ {d : Disk} (n : Nat) (reg : Registry), Q d →
    Q (Registry.finishOne (d, reg) (sessionFolder root n)).1
  start : ∀ (r : Recorder) (n : Nat) {d : Disk}, Q d →
    Q (r.onDisk (d.prepare (sessionFolder root n)) (.start (sessionFolder root n)))

variable {root : Path} {Q : Disk → Prop} {n : Nat}

/-- What no operation on a session folder ends, lasts if no start of a session ends it. -/
theorem Disk.lasting_of_keeps
    (keeps : ∀ {n : Nat} {d d' : Disk}, KeepsTo root n d d' → Q d → Q d')
    (start : ∀ (r : Recorder) (n : Nat) {d : Disk}, Q d →
      Q (r.onDisk (d.prepare (sessionFolder root n)) (.start (sessionFolder root n)))) :
    Disk.Lasting root Q where
  make hm h := keeps (Disk.keepsTo_make hm) h
  delete s hp h := keeps (Disk.keepsTo_delete s hp) h
  judge n reg h := keeps (Disk.keepsTo_finishOne root n _ reg) h
  start r n _ h := start r n h

/-- A root that leads to a directory past all session folders goes on doing so. -/
theorem Disk.lasting_rooted (root : Path) (base : Place) : Disk.Lasting root (Rooted root base) :=
  Disk.lasting_of_keeps (fun hk h => (hk.rooted base h).1) fun r n _ h =>
    (Disk.rooted_start h r n).1

/-- A disk that has only had session folders changed, and that suits the root, goes on being such
a one. -/
theorem Disk.lasting_grounded {d₀ : Disk} (hs : Suits root d₀) :
    Disk.Lasting root (Grounded root d₀) :=
  Disk.lasting_of_keeps (fun hk h => h.keeps hk) fun r n _ h => h.start hs r n

/-- What lasts, lasts through the end of a job. -/
theorem Disk.Lasting.finish (hl : Disk.Lasting root Q) {d : Disk} {reg : Registry}
    {paths : List Path} (hp : ∀ p ∈ paths, IsSession root n p) (h : Q d) :
    Q (Registry.finish d reg paths).1 := by
  induction paths generalizing d reg with
  | nil => exact h
  -- the folders of a job are judged one after the other
  | cons p later ih =>
    obtain ⟨i, -, rfl⟩ := hp p List.mem_cons_self
    exact ih (fun q hq => hp q (List.mem_cons_of_mem _ hq))
      (hl.judge i reg h)

namespace Relay

/-- A relay over a disk that is as it should be. -/
structure Standing (root : Path) (Q : Disk → Prop) (r : Relay) : Prop where
  owned : r.Owned
  root_eq : r.options.root = root
  disk : r.starts ≤ UInt64.size → Q r.station.disk

variable {r : Relay}

/-- As long as the numbers last, the folders have their owners. -/
theorem Standing.ownership (h : Standing root Q r) (hn : r.starts ≤ UInt64.size) :
    Ownership root r.starts r.station.folders r.queue :=
  h.root_eq ▸ h.owned.ownership hn

/-- The disk after the start of a session. -/
theorem Owned.startSession_disk (h : r.Owned) (hn : r.startSession.starts ≤ UInt64.size) :
    r.startSession.station.disk = r.recorder.onDisk
      (r.station.disk.prepare (sessionFolder r.options.root r.starts))
      (.start (sessionFolder r.options.root r.starts)) := by
  rw [starts_startSession] at hn
  rw [← h.next (by omega)]
  rfl

/-- A file that a worker is at is an entry of a session folder. -/
theorem file_of_running {reg : Registry} {q : Queue} (h : Ownership root n reg q) {id : JobId}
    {w : Worker} (hw : (id, w) ∈ q.running) {file : Path} (hf : w.stage.file? = some file) :
    ∃ i name, Path.IsPlain name ∧ file = (sessionFolder root i).child name := by
  obtain ⟨job, ho, hserves, -⟩ := h.job_of_running hw
  have hjob : job ∈ q.jobs := List.mem_of_getElem? ho.1
  obtain ⟨folder, hfolder, name, hname, rfl⟩ :=
    h.listed job hjob file (hserves.files file (Worker.mem_ahead_of_stage hf))
  obtain ⟨i, -, rfl⟩ := h.jobSession job hjob folder hfolder
  exact ⟨i, name, hname, rfl⟩

/-- A flush touches the disk only where the queue refuses the job. -/
theorem Standing.flush (hl : Disk.Lasting root Q) (h : Standing root Q r) :
    Standing root Q r.flush.1 := by
  have howned := h.owned.flush
  rcases flush_cases r with ⟨queue, id, -, he⟩ | he
  · rw [he] at howned ⊢
    exact ⟨howned, h.root_eq, h.disk⟩
  · rw [he] at howned ⊢
    refine ⟨howned, h.root_eq, fun hn => ?_⟩
    exact hl.finish (fun p hp => ((h.ownership hn).eligible_spec hp).1) (h.disk hn)

/-- What is recorded goes into the folder of the session that runs. -/
theorem Standing.record (hl : Disk.Lasting root Q) (h : Standing root Q r) (name : String)
    (node : Disk.Node) : Standing root Q (r.record name node) := by
  have howned := h.owned.record name node
  rcases record_cases r name node with he | ⟨folder, disk, ha, hm, he⟩
  · rwa [he]
  rw [he] at howned ⊢
  refine ⟨howned, h.root_eq, fun hn => ?_⟩
  obtain ⟨⟨i, -, rfl⟩, -⟩ := (h.ownership hn).active folder ha
  exact hl.make hm (h.disk hn)

/-- The start of a worker touches nothing on the disk. -/
theorem Standing.dispatch (h : Standing root Q r) : Standing root Q r.dispatch := by
  have howned := h.owned.dispatch
  rcases dispatch_cases r with he | ⟨queue, -, he⟩
  · rwa [he]
  · rw [he] at howned ⊢
    exact ⟨howned, h.root_eq, h.disk⟩

/-- A step of a worker touches session folders only. -/
theorem Standing.advance (hl : Disk.Lasting root Q) (h : Standing root Q r) (id : JobId) :
    Standing root Q (r.advance id) := by
  have howned := h.owned.advance id
  rcases advance_cases r id with he | ⟨w, s', w', hrun, hadv, he⟩
  · rwa [he]
  rw [he] at howned ⊢
  refine ⟨howned, h.root_eq, fun hn => ?_⟩
  have hown := h.ownership hn
  show Q s'.disk
  -- a worker judges the folders of its job, or deletes an entry of one of them
  rcases hadv.disk with hd | rfl | ⟨file, verdict, hs, rfl⟩
  · rw [hd]
    exact h.disk hn
  · obtain ⟨job, ho, hserves, -⟩ := hown.job_of_running hrun
    rw [hserves.folders]
    exact hl.finish (hown.jobSession job (List.mem_of_getElem? ho.1)) (h.disk hn)
  · obtain ⟨i, name, hname, rfl⟩ := file_of_running hown hrun (by rw [hs]; rfl)
    exact hl.delete r.station hname (h.disk hn)

/-- No exchange touches the disk. -/
theorem Standing.answerWorker (h : Standing root Q r) (id : JobId) (answer : Answer) :
    Standing root Q (r.answerWorker id answer) := by
  have howned := h.owned.answerWorker id answer
  rcases answerWorker_cases r id answer with he | ⟨w, s', w', request, file, -, -, -, hrec, he⟩
  · rwa [he]
  rw [he] at howned ⊢
  refine ⟨howned, h.root_eq, fun hn => ?_⟩
  show Q s'.disk
  rw [hrec.disk]
  exact h.disk hn

/-- What lasts through operations on session folders lasts through every move. -/
theorem upholds_standing (hl : Disk.Lasting root Q) (m : Move) (r : Relay) :
    Upholds (Standing root Q) r m where
  quiet hq h := ⟨h.owned.quiet hq, hq.options ▸ h.root_eq, fun hn => by
    rw [starts_eq hq.toggles] at hn
    rw [hq.disk]
    exact h.disk hn⟩
  start h := ⟨h.owned.startSession, h.root_eq, fun hn => by
    rw [h.owned.startSession_disk hn, h.root_eq]
    rw [starts_startSession] at hn
    exact hl.start _ _ (h.disk (by omega))⟩
  stop h := ⟨h.owned.endSession, h.root_eq, fun hn => by
    rw [starts_endSession] at hn
    exact h.disk hn⟩
  flush h := h.flush hl
  record _ h := h.record hl _ _
  dispatch _ h := h.dispatch
  advance _ h := h.advance hl _
  answer _ h := h.answerWorker _ _
  close _ h := ⟨⟨h.owned.numbered, fun hn => (h.owned.ownership hn).kill⟩, h.root_eq, h.disk⟩

/-- What lasts through operations on session folders lasts through every run. -/
theorem Standing.run (hl : Disk.Lasting root Q) (h : Standing root Q r) (moves : List Move) :
    Standing root Q (r.run moves) := run_keeps (fun m _ => upholds_standing hl m) h

/-- A relay that has done nothing yet has not changed the disk. -/
theorem standing_startOn {disk : Disk} {options : Options} (settings : Settings)
    (recorder : Recorder) (h : Q disk) :
    Standing options.root Q (startOn disk options settings recorder) :=
  ⟨owned_startOn disk options settings recorder, rfl, fun _ => h⟩

end Relay

end PushToTalk
