import Mathlib
import PushToTalk.Proofs.Disk.Scan
import PushToTalk.Proofs.Relay.Session

/-
  What a flush takes.

  A flush takes every registered folder that nobody works on, that is not delivered and that is not
  being recorded into, and of those folders all recordings that stand in them: each once, in the
  order of their paths, and from nowhere else.  A folder that cannot be listed, since it is gone or
  a file stands in its place, neither adds to this nor takes away from it.  Until a worker has
  reported, or a session has ended, a second flush takes nothing.

  The disk is not the relay's own: here anything may happen to it between two moves.  All that is
  asked for is that it is a tree of directories and files when the flush comes.

  1. **Relays that come up** (`ComesUp`) — states reached by moves with arbitrary changes of the
     disk in between.  Who owns which folder does not hang on the disk, so it is as it should be in
     all of them (`ComesUp.owned`).

  2. **One flush** — its folders are picked by `Takes`, its files are what they hold.  The order of
     the files is strict since no two folders are one path (`Disk.recordings_strict`).

  3. **A second flush** — a scan leaves nothing to take (`afterScan_eligible`), and no step from
     there to the next report or end of a session changes that (`Calm.nothing_left`): only these two
     make a folder eligible, and a session that starts while none is running makes its own folder
     the active one.

  If the queue refuses the job of the first flush, its folders are judged at once and may be there
  for the second; so that part is said of a queue that takes it.

  Main statement: `flush_takes`.
-/

namespace PushToTalk

open Upload (Job JobId Queue Worker Report)

namespace Registry

/-- A flush takes a folder that nobody works on, that is not delivered, and that is not being
recorded into. -/
def Takes (reg : Registry) (f : Folder) : Prop :=
  f.state ≠ .processing ∧ f.state ≠ .finishedSuccessfully ∧
    ∀ a ∈ reg.active, (a == f.path) = false

instance (reg : Registry) (f : Folder) : Decidable (reg.Takes f) :=
  inferInstanceAs (Decidable (_ ∧ _ ∧ _))

/-- The test that a scan makes is the condition spelled out. -/
theorem isEligible_iff {reg : Registry} {f : Folder} : reg.isEligible f = true ↔ reg.Takes f := by
  unfold isEligible isActive Takes
  cases reg.active with
  | none => simp [and_comm]
  | some a => simp [and_left_comm, and_assoc]

/-- A scan hands out the folders that a flush takes, in the order of their registration. -/
theorem eligible_eq (reg : Registry) :
    reg.eligible = (reg.folders.filter fun f => decide (reg.Takes f)).map (·.path) := by
  unfold eligible
  have hpick : reg.isEligible = fun f => decide (reg.Takes f) := by
    funext f
    rw [Bool.eq_iff_iff, isEligible_iff, decide_eq_true_eq]
  rw [hpick]

/-- Nothing is handed out where no folder meets the condition. -/
theorem eligible_eq_nil_iff {reg : Registry} :
    reg.eligible = [] ↔ ∀ f ∈ reg.folders, ¬ reg.Takes f := by
  rw [eligible_eq, List.map_eq_nil_iff, List.filter_eq_nil_iff]
  simp only [decide_eq_true_eq]

/-- Right after a scan there is nothing left to hand out. -/
theorem afterScan_eligible (reg : Registry) : reg.afterScan.eligible = [] := by
  rw [eligible_eq_nil_iff]
  intro f' hf' htakes
  obtain ⟨f, -, -, -, hcase⟩ := Ownership.mem_afterScan hf'
  rcases hcase with ⟨-, hstate⟩ | ⟨hnot, rfl⟩
  · exact htakes.1 hstate
  · -- who is being recorded into is the same after the scan as before
    have hbefore : reg.Takes f' := htakes
    rw [isEligible_iff.2 hbefore] at hnot
    cases hnot

/-- A session that starts while none is running leaves nothing more to hand out. -/
theorem eligible_beginRecording {reg : Registry} {p : Path} (h : reg.eligible = [])
    (hactive : ∀ a ∈ reg.active, a = p) : (reg.beginRecording p).eligible = [] := by
  rw [eligible_eq_nil_iff] at h ⊢
  intro f hf htakes
  have hnew : (p == f.path) = false := htakes.2.2 p rfl
  rcases List.mem_append.1 hf with hold | hlast
  · exact h f hold ⟨htakes.1, htakes.2.1, fun a ha => hactive a ha ▸ hnew⟩
  · obtain rfl := List.mem_singleton.1 hlast
    rw [Path.beq_refl] at hnew
    cases hnew

end Registry

namespace Upload.Queue

/-- The reports that have come in. -/
def reports (q : Queue) : List (JobId × Report) :=
  q.outcomes.filterMap fun e =>
    match e.2 with
    | .reported report => some (e.1, report)
    | .lost => none

/-- A worker that comes to the end of its pass reports. -/
theorem reports_ended {q : Queue} {id : JobId} {w : Worker} (he : w.stage = .ended) :
    (q.update id w).reports = q.reports ++ [(id, w.report)] := by
  unfold update reports
  rw [he, List.filterMap_append]
  rfl

end Upload.Queue

namespace Relay

variable {r r' : Relay}

/-! ## Relays that come up -/

/-- The relay over another disk. -/
def withDisk (r : Relay) (d : Disk) : Relay :=
  { r with station := { r.station with disk := d } }

/-- What can happen next: a move, or something that somebody else does to the disk. -/
inductive Next (r : Relay) : Relay → Prop
  | move (m : Move) : Next r (r.move m)
  | disk (d : Disk) : Next r (r.withDisk d)

/-- A relay that comes up some time after the start. -/
def ComesUp (r : Relay) : Prop :=
  ∃ disk options settings recorder,
    Relation.ReflTransGen Next (startOn disk options settings recorder) r

/-- Who owns which folder does not hang on the disk. -/
theorem Owned.next_step (h : r.Owned) (hn : Next r r') : r'.Owned := by
  cases hn with
  | move m => exact move_keeps (upholds_owned m r) h
  | disk d => exact ⟨h.numbered, h.ownership⟩

/-- Folders are owned as they should be in every state that comes up. -/
theorem ComesUp.owned (h : r.ComesUp) : r.Owned := by
  obtain ⟨disk, options, settings, recorder, hsteps⟩ := h
  induction hsteps with
  | refl => exact owned_startOn disk options settings recorder
  | tail _ hnext ih => exact ih.next_step hnext

/-! ## A second flush -/

/-- A step in which no worker reports and no session ends. -/
structure Calm (r r' : Relay) : Prop where
  next : Next r r'
  reports : r'.queue.reports = r.queue.reports
  session : ∀ a ∈ r.station.folders.active, r'.station.folders.active = some a

/-- Nothing is left for a flush to take. -/
def NothingLeft (r : Relay) : Prop := r.station.folders.eligible = []

/-- The job of a flush that finds nothing to take is empty. -/
theorem NothingLeft.job (h : r.NothingLeft) :
    r.flushJob.folders = [] ∧ r.flushJob.files = [] := by
  have hfolders : r.station.folders.eligible = [] := h
  refine ⟨hfolders, ?_⟩
  unfold flushJob
  rw [hfolders]
  simp [Disk.recordings, Path.sort]

/-- What is left is a matter of the registry. -/
theorem NothingLeft.of_folders (h : r.NothingLeft)
    (hsame : r'.station.folders = r.station.folders) : r'.NothingLeft := by
  unfold NothingLeft
  rw [hsame]
  exact h

/-- A flush leaves nothing where the queue takes its job, and where there was nothing. -/
theorem NothingLeft.flush (h : r.NothingLeft) : r.flush.1.NothingLeft := by
  have hnone : r.station.folders.eligible = [] := h
  rcases flush_cases r with ⟨queue, id, -, he⟩ | he
  · rw [he]
    exact Registry.afterScan_eligible _
  · rw [he, hnone]
    exact Registry.afterScan_eligible _

/-- The flush after a recording has stopped is a flush like any other, or none. -/
theorem NothingLeft.flushIfStopped (h : r.NothingLeft) : r.flushIfStopped.1.NothingLeft := by
  unfold Relay.flushIfStopped
  split
  · exact NothingLeft.flush (r := r.takeStopped) h
  · exact h

/-- A look that ends no session leaves nothing where there was nothing. -/
theorem NothingLeft.toggleIfEdge (h : r.NothingLeft) {was : Bool}
    (hsession : ∀ a ∈ r.station.folders.active,
      (r.toggleIfEdge was).station.folders.active = some a) : (r.toggleIfEdge was).NothingLeft := by
  unfold Relay.toggleIfEdge at hsession ⊢
  split at hsession
  · exact Registry.eligible_beginRecording h fun a ha => (Option.some.inj (hsession a ha)).symm
  · have hidle : r.station.folders.active = none := by
      cases ha : r.station.folders.active with
      | none => rfl
      | some a => cases hsession a ha
    have hsame : r.endSession.station.folders = r.station.folders := by
      show ({ r.station.folders with active := none } : Registry) = r.station.folders
      rw [← hidle]
    exact h.of_folders hsame
  · exact h

/-- A flush ends no session. -/
theorem active_flushIfStopped (r : Relay) :
    r.flushIfStopped.1.station.folders.active = r.station.folders.active := by
  unfold Relay.flushIfStopped
  split
  · exact active_flush r.takeStopped
  · rfl

/-- A worker that does not report leaves the folders alone. -/
theorem folders_advance {id : JobId} (h : (r.advance id).queue.reports = r.queue.reports) :
    (r.advance id).station.folders = r.station.folders := by
  rcases advance_cases r id with he | ⟨w, s', w', -, hadv, he⟩
  · rw [he]
  · rw [he] at h ⊢
    rcases hadv.folders with ⟨hend, -, -⟩ | ⟨-, hfolders⟩
    · have hmore : r.queue.reports ++ [(id, w'.report)] = r.queue.reports :=
        (Queue.reports_ended hend).symm.trans h
      simp at hmore
    · exact hfolders

/-- An answer to a worker leaves the folders alone. -/
theorem folders_answerWorker (r : Relay) (id : JobId) (answer : Answer) :
    (r.answerWorker id answer).station.folders = r.station.folders := by
  rcases answerWorker_cases r id answer with he | ⟨w, s', w', request, file, -, -, -, hrec, he⟩
  · rw [he]
  · rw [he]
    exact hrec.folders.2

/-- Where nothing was left, nothing is left after a calm step. -/
theorem Calm.nothing_left (h : Calm r r') (hr : r.NothingLeft) : r'.NothingLeft := by
  obtain ⟨hnext, hreports, hsession⟩ := h
  cases hnext with
  | disk d => exact hr
  | move m =>
    -- a look is a sweep, an edge and a flush; the edge ends no session, because the flush behind it
    -- would not undo that
    cases m with
    | setName user name => exact hr.of_folders (quiet_setName r user name).folders
    | speech user now => exact hr.of_folders (quiet_reportSpeech r user now).folders
    | sweep now => exact hr.of_folders (quiet_sweep r now).folders
    | toggle was => exact hr.toggleIfEdge hsession
    | notify => exact hr.of_folders (quiet_notify r).folders
    | flush => exact hr.flush
    | flushIfStopped => exact hr.flushIfStopped
    | poll was now =>
      have hswept : (r.sweep now).NothingLeft := hr.of_folders (quiet_sweep r now).folders
      refine (hswept.toggleIfEdge fun a ha => ?_).flushIfStopped
      exact (active_flushIfStopped _).symm.trans (hsession a ha)
    | record name node =>
      refine hr.of_folders ?_
      rcases record_cases r name node with he | ⟨folder, disk, -, -, he⟩ <;>
        exact congrArg (·.station.folders) he
    | fetch => exact hr.of_folders (quiet_promote r).folders
    | tick id answer => exact hr.of_folders (quiet_settleFetch r id answer).folders
    | dispatch =>
      refine hr.of_folders ?_
      rcases dispatch_cases r with he | ⟨queue, -, he⟩ <;> exact congrArg (·.station.folders) he
    | advance id => exact hr.of_folders (folders_advance hreports)
    | answer id answer => exact hr.of_folders (folders_answerWorker r id answer)
    | closeQueue => exact hr

/-- No matter how many calm steps there are. -/
theorem nothing_left_of_calm (hr : r.NothingLeft) (h : Relation.ReflTransGen Calm r r') :
    r'.NothingLeft := by
  induction h with
  | refl => exact hr
  | tail _ hcalm ih => exact hcalm.nothing_left ih

/-- A flush that the queue takes leaves nothing. -/
theorem nothing_left_flush (halive : r.queue.alive = true) : r.flush.1.NothingLeft := by
  rw [flush_of_alive halive]
  exact Registry.afterScan_eligible _

/-! ## A flush -/

/-- A flush takes exactly what there is to take: the folders that nobody works on, that are not
delivered and that are not being recorded into, in the order of their registration; and of those
folders every recording that stands in one, once, in the order of the paths.  A folder that cannot
be listed adds no file and takes none away.  Until a worker has reported or a session has ended, a
second flush takes nothing, if the queue took the first. -/
theorem flush_takes (h : r.ComesUp) (hn : r.starts ≤ UInt64.size)
    (ht : r.station.disk.IsTree) :
    (r.queue.alive = true → r.flush.1.queue.jobs = r.queue.jobs ++ [r.flushJob]) ∧
    r.flushJob.folders =
      (r.station.folders.folders.filter fun f => decide (r.station.folders.Takes f)).map
        (·.path) ∧
    (∀ file, file ∈ r.flushJob.files ↔
      ∃ folder ∈ r.flushJob.folders, r.station.disk.Holds folder file) ∧
    r.flushJob.files.Pairwise (fun p q => p.compare q = .lt) ∧
    (∀ file ∈ r.flushJob.files, ∃ folder ∈ r.flushJob.folders, file.parent? = some folder) ∧
    (∀ folder ∈ r.flushJob.folders, ∀ why, r.station.disk.directoryOf folder = .error why →
      ∀ file ∈ r.flushJob.files, file.parent? ≠ some folder) ∧
    (r.queue.alive = true → ∀ r', Relation.ReflTransGen Calm r.flush.1 r' →
      r'.flushJob.folders = [] ∧ r'.flushJob.files = []) := by
  have hown := h.owned.ownership hn
  have hsession : ∀ folder ∈ r.flushJob.folders, ∃ k, folder = sessionFolder r.options.root k :=
    fun folder hfolder => (hown.eligible_spec hfolder).1.exists_eq
  have hdistinct : r.flushJob.folders.Pairwise fun p q => (p == q) = false :=
    List.pairwise_map.2 (hown.distinct.filter _)
  have hfiles : ∀ file, file ∈ r.flushJob.files ↔
      ∃ folder ∈ r.flushJob.folders, r.station.disk.Holds folder file := by
    intro file
    rw [show r.flushJob.files = r.station.disk.recordings r.flushJob.folders from rfl,
      mem_recordings]
    refine exists_congr fun folder => and_congr_right fun hfolder => ?_
    obtain ⟨k, rfl⟩ := hsession folder hfolder
    exact Disk.mem_recordingsIn_iff ht
  have hparent : ∀ folder ∈ r.flushJob.folders, ∀ file, r.station.disk.Holds folder file →
      file.parent? = some folder := by
    intro folder hfolder file hholds
    obtain ⟨k, rfl⟩ := hsession folder hfolder
    exact hholds.parent?
  -- files and folders belong together by the parent of the path, whatever way the disk takes to it
  refine ⟨fun halive => by rw [flush_of_alive halive], Registry.eligible_eq _, hfiles,
    Disk.recordings_strict ht hsession hdistinct, ?_, ?_, ?_⟩
  · intro file hfile
    obtain ⟨folder, hfolder, hholds⟩ := (hfiles file).1 hfile
    exact ⟨folder, hfolder, hparent folder hfolder file hholds⟩
  · intro folder _ why herror file hfile hin
    obtain ⟨other, hother, hholds⟩ := (hfiles file).1 hfile
    obtain rfl := Option.some.inj ((hparent other hother file hholds).symm.trans hin)
    obtain ⟨v, -, -, hdir, -⟩ := hholds
    rw [herror] at hdir
    cases hdir
  · intro halive r' hcalm
    exact (nothing_left_of_calm (nothing_left_flush halive) hcalm).job

/-- A run is a way to come up. -/
theorem next_run (r : Relay) (moves : List Move) : Relation.ReflTransGen Next r (r.run moves) := by
  induction moves generalizing r with
  | nil => exact .refl
  | cons m later ih => exact .head (.move m) (ih (r.move m))

/-- A disk with two recordings in the first session folder and a file in the place of the second. -/
def scanDisk : Disk :=
  ((((Disk.blank.set ["rec"] .directory).set ["rec", "voice0"] .directory).set
    ["rec", "voice0", "2-b.wav"] (.file [2])).set ["rec", "voice0", "1-a.wav"] (.file [1])).set
    ["rec", "voice1"] (.file [3])

/-- Every entry of that disk was made where there was nothing, in a directory. -/
theorem isTree_scanDisk : scanDisk.IsTree := by
  have hnew : ∀ {d : Disk} {place : Place} {name : String} {node : Disk.Node}, d.IsTree →
      d.at? place = some .directory → d.at? (place ++ [name]) = none →
      (d.set (place ++ [name]) node).IsTree := fun ht hplace hnone =>
    ht.set hplace (Or.inr (by rw [hnone]; exact nofun))
  have hroot : (Disk.blank.set ([] ++ ["rec"]) .directory).IsTree :=
    hnew Disk.isTree_blank rfl (by cbv)
  have hfolder : ((Disk.blank.set ["rec"] .directory).set (["rec"] ++ ["voice0"])
      .directory).IsTree := hnew hroot (by cbv) (by cbv)
  have hfirst : (((Disk.blank.set ["rec"] .directory).set ["rec", "voice0"] .directory).set
      (["rec", "voice0"] ++ ["2-b.wav"]) (.file [2])).IsTree := hnew hfolder (by cbv) (by cbv)
  have hsecond : ((((Disk.blank.set ["rec"] .directory).set ["rec", "voice0"] .directory).set
      ["rec", "voice0", "2-b.wav"] (.file [2])).set (["rec", "voice0"] ++ ["1-a.wav"])
      (.file [1])).IsTree := hnew hfirst (by cbv) (by cbv)
  have hstray : (((((Disk.blank.set ["rec"] .directory).set ["rec", "voice0"] .directory).set
      ["rec", "voice0", "2-b.wav"] (.file [2])).set ["rec", "voice0", "1-a.wav"]
      (.file [1])).set (["rec"] ++ ["voice1"]) (.file [3])).IsTree :=
    hnew hsecond (by cbv) (by cbv)
  exact hstray

/-- Two sessions below `rec`, over that disk. -/
def scanned : Relay :=
  (sample.run [.speech 1 0, .toggle false, .sweep 1000, .toggle true, .speech 1 2000,
    .toggle false, .sweep 3000, .toggle true]).withDisk scanDisk

/-- The two sessions are a run, and the disk comes after it. -/
theorem comesUp_scanned : scanned.ComesUp :=
  ⟨_, _, _, _, (next_run sample _).tail (.disk scanDisk)⟩

/-- Both recordings are taken in their order although the second folder cannot be listed, and a
flush after the next start of a worker takes nothing. -/
theorem flush_takes_sample : scanned.ComesUp ∧ scanned.starts ≤ UInt64.size ∧
    scanned.station.disk.IsTree ∧
    (∀ file, file ∈ scanned.flushJob.files ↔
      ∃ folder ∈ scanned.flushJob.folders, scanned.station.disk.Holds folder file) ∧
    scanned.flushJob.files.Pairwise (fun p q => p.compare q = .lt) ∧
    (scanned.flush.1.move .dispatch).flushJob.files = [] := by
  have hn : scanned.starts ≤ UInt64.size :=
    Nat.le_trans (starts_run_le sample _) (by decide)
  have hidle : scanned.flush.1.station.folders.active = none := by
    rw [active_flush]
    cbv
  have hcalm : Calm scanned.flush.1 (scanned.flush.1.move .dispatch) :=
    { next := .move .dispatch
      reports := by
        rcases dispatch_cases scanned.flush.1 with he | ⟨queue, hd, he⟩
        · exact congrArg (·.queue.reports) he
        · obtain ⟨_, _, _, -, rfl⟩ := Queue.dispatch_eq_some hd
          exact congrArg (·.queue.reports) he
      session := fun a ha => by
        rw [hidle] at ha
        cases ha }
  obtain ⟨-, -, hfiles, horder, -, -, hsecond⟩ :=
    flush_takes comesUp_scanned hn isTree_scanDisk
  exact ⟨comesUp_scanned, hn, isTree_scanDisk, hfiles, horder,
    (hsecond (by cbv) _ (.single hcalm)).2⟩

end Relay

end PushToTalk
