import Mathlib
import PushToTalk.Proofs.Disk.Apart
import PushToTalk.Proofs.Relay.GivenUp
import PushToTalk.Proofs.Relay.Scan

/-
  A flush that the queue refuses.

  Without a dispatcher nobody takes the job of a flush.  It would be easy to lose it: the folders
  are marked as being processed by then, and no worker will ever report them.  So the queue hands
  the job back, and the folders that the flush has just taken are judged at once.  What was empty or
  missing is finished for good; what still holds anything is left over, with all that is in it, and
  so the next flush takes it again.  As the dispatcher never comes back, this goes on for good: what
  is left over stays where it is, and each later flush hands it out once more.

  1. **The verdicts** — each folder that the flush has taken is judged by what was left in it when
     the flush was made; the other folders, and whatever else is on the disk, are as they were.

  2. **Left over** — what a session folder holds is not touched any more (`LeftAlone`), as the queue
     stays closed, no job has the folder, and it is not recorded into.  The condition is kept by
     every move, workers that still run included, since these are at work in the folders of their
     own jobs.

  3. **The flush** — what it changes at all (`TurnedDown`), which is so in any state that comes up;
     and what it leaves (`LeavesOver`), which takes a root that places the folders.

  4. **A root that leads through a session folder** — the removal of an empty folder cuts off the
     other one, and the recording in it is given up.

  What is lost with a refused flush are the tick requests, as with any flush: `rest` says that they
  are gone.

  Main statement: `refused_flush`.
-/

namespace PushToTalk

open Upload (Job JobId Queue Worker)
open Disk (Placed Rooted Suits)

variable {root : Path} {base : Place} {n k : Nat} {reg : Registry} {q : Queue} {d d₀ : Disk}
  {f : Folder} {p : Path}

/-! ## The verdicts -/

namespace Ownership

variable (h : Ownership root n reg q)
include h

/-- What a flush takes are session folders. -/
theorem exists_eligible : ∀ p ∈ reg.eligible, ∃ k, p = sessionFolder root k :=
  fun _ hm => (h.eligible_spec hm).1.exists_eq

/-- After a scan there are only session folders in the registry, as before. -/
theorem exists_afterScan : ∀ f ∈ reg.afterScan.folders, ∃ k, f.path = sessionFolder root k :=
  fun f hf => (h.session_afterScan f hf).exists_eq

/-- The folder that is being recorded into, and those in processing, are not taken. -/
theorem not_taken (hf : f ∈ reg.folders) (hs : f.state = .processing ∨ reg.active = some f.path) :
    f.state ≠ .finishedSuccessfully ∧ f.path ∉ reg.eligible := by
  rcases hs with hs | ha
  · refine ⟨by rw [hs]; exact FolderState.noConfusion, fun hm => ?_⟩
    obtain ⟨g, hg, he, hpath⟩ := (mem_eligible reg).1 hm
    obtain rfl := h.unique hg hf hpath
    rw [not_eligible_of_processing hs] at he
    cases he
  · obtain ⟨-, ⟨g, hg, hpath, hstate⟩, -⟩ := h.active _ ha
    obtain rfl := h.unique hg hf hpath
    exact ⟨by rw [hstate]; exact FolderState.noConfusion,
      fun hm => (h.eligible_spec hm).2.1 ha⟩

/-- Whoever is in processing after a flush that is refused was so before. -/
theorem refused_processing (d : Disk)
    (hf : f ∈ (Registry.finish d reg.afterScan reg.eligible).2.folders)
    (hs : f.state = .processing) : f ∈ reg.folders := by
  obtain ⟨-, g, hg, hj⟩ :=
    Registry.finish_judges d (distinct_afterScan h.distinct) reg.eligible
  rw [hg] at hf
  obtain ⟨f₁, hscan, rfl⟩ := List.mem_map.1 hf
  obtain ⟨-, hin, hout⟩ := judged (hj f₁ hscan) (h.session_afterScan f₁ hscan)
    fun p hp => (h.eligible_spec hp).1
  -- what was judged is finished, and what was not judged is as it was before the scan
  by_cases hm : f₁.path ∈ reg.eligible
  · exact absurd hs (hin hm).ne_processing
  rw [hout hm]
  obtain ⟨f₀, hf₀, -, hpath, ⟨he, -⟩ | ⟨-, rfl⟩⟩ := mem_afterScan hscan
  · exact absurd ((mem_eligible reg).2 ⟨f₀, hf₀, he, hpath.symm⟩) hm
  · exact hf₀

/-- A folder that is not taken stays registered as it was. -/
theorem refused_other (d : Disk) (hf : f ∈ reg.folders) (hs : f.state ≠ .finishedSuccessfully)
    (hnot : f.path ∉ reg.eligible) :
    f ∈ (Registry.finish d reg.afterScan reg.eligible).2.folders := by
  obtain ⟨-, g, hg, hj⟩ :=
    Registry.finish_judges d (distinct_afterScan h.distinct) reg.eligible
  have hscan := mem_afterScan_of_not_mem hf hs hnot
  rw [hg]
  exact List.mem_map.2 ⟨f, hscan, (judged (hj f hscan) (h.session f hf)
    fun p hp => (h.eligible_spec hp).1).2.2 hnot⟩

variable (hp : Placed root d)
include hp

/-- A folder that is taken and still holds anything is left over, with all that is in it. -/
theorem refused_kept (hm : p ∈ reg.eligible) (hv : d.isVacant p = false) :
    ⟨p, .finishedUnsuccessfully⟩ ∈ (Registry.finish d reg.afterScan reg.eligible).2.folders ∧
      d.Untouched (Registry.finish d reg.afterScan reg.eligible).1 p := by
  obtain ⟨f, hf, he, rfl⟩ := (mem_eligible reg).1 hm
  exact hp.finish_kept (f := { f with state := .processing }) (distinct_afterScan h.distinct)
    h.exists_afterScan h.exists_eligible (afterScan_of_eligible hf he) hm hv

/-- A folder that is taken and was empty or missing is finished for good, and there is no directory
of it. -/
theorem refused_gone (hm : p ∈ reg.eligible) (hv : d.isVacant p = true) :
    ⟨p, .finishedSuccessfully⟩ ∈ (Registry.finish d reg.afterScan reg.eligible).2.folders ∧
      (Registry.finish d reg.afterScan reg.eligible).1.list p = .error .notFound := by
  obtain ⟨f, hf, he, rfl⟩ := (mem_eligible reg).1 hm
  exact hp.finish_gone (f := { f with state := .processing }) (distinct_afterScan h.distinct)
    h.exists_afterScan h.exists_eligible (afterScan_of_eligible hf he) hm hv

/-- What is in a folder that is not taken is as it was. -/
theorem refused_untouched (hf : f ∈ reg.folders) (hs : f.state ≠ .finishedSuccessfully)
    (hnot : f.path ∉ reg.eligible) :
    d.Untouched (Registry.finish d reg.afterScan reg.eligible).1 f.path :=
  (hp.finish_other (distinct_afterScan h.distinct) h.exists_afterScan h.exists_eligible
    (mem_afterScan_of_not_mem hf hs hnot) hnot).2

end Ownership

namespace Relay

variable {r r' : Relay} {m : Move} {name : String} {node : Disk.Node}

/-! ## Left over -/

/-- Session folder `k` has something left over, and holds what it held on the disk `d₀`. -/
structure Holding (root : Path) (base : Place) (k : Nat) (d₀ : Disk) (reg : Registry) (d : Disk) :
    Prop where
  folder : ⟨sessionFolder root k, .finishedUnsuccessfully⟩ ∈ reg.folders
  same : ∀ u, base ++ [sessionName k] <+: u → d.at? u = d₀.at? u

namespace Holding

variable (h : Holding root base k d₀ reg d)
include h

/-- A folder with something left over is not being recorded into. -/
theorem not_active (hown : Ownership root n reg q) : reg.active ≠ some (sessionFolder root k) := by
  intro ha
  obtain ⟨-, ⟨g, hg, hpath, hstate⟩, -⟩ := hown.active _ ha
  rw [hown.unique hg h.folder hpath] at hstate
  cases hstate

/-- A folder with something left over is in no job. -/
theorem not_held (hown : Ownership root n reg q) {id : JobId} {job : Job} (ho : q.IsOpen id job) :
    sessionFolder root k ∉ job.folders := by
  intro hm
  obtain ⟨g, hg, hpath, hstate⟩ := hown.held id job ho _ hm
  rw [hown.unique hg h.folder hpath] at hstate
  cases hstate

/-- The next flush takes the folder. -/
theorem mem_eligible (hown : Ownership root n reg q) : sessionFolder root k ∈ reg.eligible := by
  refine (Ownership.mem_eligible reg).2 ⟨_, h.folder, ?_, rfl⟩
  have hidle : reg.isActive (sessionFolder root k) = false := by
    rw [← Bool.not_eq_true, hown.isActive_iff h.folder]
    exact h.not_active hown
  simp [Registry.isEligible, hidle]

/-- Whatever happens to the folder of another session does not matter. -/
theorem elsewhere {m : Nat} {d' : Disk} (hc : Disk.ChangesOnly base m d d') (hne : k ≠ m) :
    Holding root base k d₀ reg d' := by
  refine ⟨h.folder, fun u hu => ?_⟩
  rw [← h.same u hu]
  obtain ⟨later, rfl⟩ := hu
  refine hc _ ?_
  rw [List.append_assoc]
  exact Disk.not_prefix_session base hne later

/-- A folder that still holds an entry does not count as empty. -/
theorem not_vacant (hr : Rooted root base d)
    (he : d₀.at? (base ++ [sessionName k] ++ [name]) = some node) :
    d.directoryOf (sessionFolder root k) = .ok (base ++ [sessionName k]) ∧
      d.isVacant (sessionFolder root k) = false := by
  have ha : d.at? (base ++ [sessionName k] ++ [name]) = some node := by
    rw [h.same _ (List.prefix_append _ _), he]
  exact hr.full_of_entry ha

/-- The recordings in the folder are those that were in it on the first disk, byte by byte. -/
theorem recordings (hr₀ : Rooted root base d₀) (hr : Rooted root base d) :
    (∀ file, file ∈ d.recordingsIn (sessionFolder root k) ↔
      file ∈ d₀.recordingsIn (sessionFolder root k)) ∧
    ∀ file ∈ d₀.recordingsIn (sessionFolder root k),
      ∃ bytes, d₀.read file = .ok bytes ∧ d.read file = .ok bytes := by
  have hentry : ∀ name, d.at? (base ++ [sessionName k] ++ [name]) =
      d₀.at? (base ++ [sessionName k] ++ [name]) :=
    fun name => h.same _ (List.prefix_append _ _)
  refine ⟨fun file => ?_, fun file hfile => ?_⟩
  · simp only [hr.mem_recordingsIn, hr₀.mem_recordingsIn, hentry]
  · obtain ⟨name, bytes, hname, rfl, ha, -⟩ := hr₀.mem_recordingsIn.1 hfile
    exact ⟨bytes, hr₀.read_entry hname ha, hr.read_entry hname ((hentry name).trans ha)⟩

end Holding

/-- The queue is closed, and a session folder is left with what is in it. -/
structure LeftAlone (root : Path) (base : Place) (k : Nat) (d₀ : Disk) (r : Relay) : Prop where
  standing : Standing root (Rooted root base) r
  closed : r.queue.alive = false
  started : k < r.starts
  holding : r.starts ≤ UInt64.size → Holding root base k d₀ r.station.folders r.station.disk

namespace LeftAlone

/-- A step that starts no session and leaves the folder with what is in it. -/
theorem next (h : LeftAlone root base k d₀ r) (hst : Standing root (Rooted root base) r')
    (ht : r'.toggles = r.toggles) (hq : r'.queue.alive = r.queue.alive)
    (hh : r.starts ≤ UInt64.size → Holding root base k d₀ r.station.folders r.station.disk →
      Holding root base k d₀ r'.station.folders r'.station.disk) :
    LeftAlone root base k d₀ r' := by
  have hstarts : r'.starts = r.starts := starts_eq ht
  refine ⟨hst, hq ▸ h.closed, hstarts ▸ h.started, fun hn => ?_⟩
  rw [hstarts] at hn
  exact hh hn (h.holding hn)

/-- The start of another session. -/
theorem start (h : LeftAlone root base k d₀ r)
    (hst : Standing root (Rooted root base) r.startSession) :
    LeftAlone root base k d₀ r.startSession := by
  have hstarted : k < r.startSession.starts := by
    rw [starts_startSession]
    exact Nat.lt_succ_of_lt h.started
  refine ⟨hst, h.closed, hstarted, fun hn => ?_⟩
  have hdisk := h.standing.owned.startSession_disk hn
  rw [starts_startSession] at hn
  have hh := h.holding (by omega)
  have hchanges :=
    (Disk.rooted_start (h.standing.disk (by omega)) r.recorder r.starts).2
  rw [hdisk, h.standing.root_eq]
  exact ⟨List.mem_append_left _ hh.folder,
    (hh.elsewhere hchanges (Nat.ne_of_lt h.started)).same⟩

/-- A flush is refused again, and judges the folder as before. -/
theorem flush (h : LeftAlone root base k d₀ r)
    (he : d₀.at? (base ++ [sessionName k] ++ [name]) = some node)
    (hst : Standing root (Rooted root base) r.flush.1) : LeftAlone root base k d₀ r.flush.1 := by
  have hflush := flush_of_closed h.closed
  refine h.next hst (toggles_flush r) (by rw [hflush]) fun hn hh => ?_
  have hr := h.standing.disk hn
  have hown := h.standing.ownership hn
  obtain ⟨hdir, hfull⟩ := hh.not_vacant hr he
  obtain ⟨hfolder, hsame⟩ :=
    hown.refused_kept (Or.inr ⟨base, hr⟩) (hh.mem_eligible hown) hfull
  rw [hflush]
  exact ⟨hfolder, fun u hu => (hsame.below _ hdir u hu).trans (hh.same u hu)⟩

/-- The recorder is at work in the active folder. -/
theorem record (h : LeftAlone root base k d₀ r)
    (hst : Standing root (Rooted root base) (r.record name node)) :
    LeftAlone root base k d₀ (r.record name node) := by
  rcases record_cases r name node with he | ⟨folder, disk, ha, hm, he⟩
  · rwa [he]
  rw [he] at hst ⊢
  refine h.next hst rfl rfl fun hn hh => ?_
  have hown := h.standing.ownership hn
  obtain ⟨⟨i, -, rfl⟩, -⟩ := hown.active folder ha
  have hne : k ≠ i := by
    rintro rfl
    exact hh.not_active hown ha
  exact hh.elsewhere ((Disk.keepsTo_make hm).rooted base (h.standing.disk hn)).2 hne

/-- A worker that makes a step is at work in the folders of its job only. -/
theorem advance (h : LeftAlone root base k d₀ r)
    (he : d₀.at? (base ++ [sessionName k] ++ [name]) = some node) (id : JobId)
    (hst : Standing root (Rooted root base) (r.advance id)) :
    LeftAlone root base k d₀ (r.advance id) := by
  rcases advance_cases r id with hsame | ⟨w, s', w', hrun, hadv, hnext⟩
  · rwa [hsame]
  rw [hnext] at hst ⊢
  refine h.next hst rfl (Queue.update_alive _ _ _) fun hn hh => ?_
  have hr := h.standing.disk hn
  have hown := h.standing.ownership hn
  obtain ⟨job, ho, hserves, -⟩ := hown.job_of_running hrun
  have hjob : job ∈ r.queue.jobs := List.mem_of_getElem? ho.1
  have hnot := hh.not_held hown ho
  have hfinish : Holding root base k d₀ (r.station.finish w.folders).folders
      (r.station.finish w.folders).disk := by
    rw [hserves.folders]
    obtain ⟨hfolder, hsame⟩ := Placed.finish_other (Or.inr ⟨base, hr⟩) hown.distinct
      (fun f hf => (hown.session f hf).exists_eq) (IsSession.paths (hown.jobSession job hjob))
      hh.folder hnot
    exact ⟨hfolder, fun u hu =>
      (hsame.below _ (hh.not_vacant hr he).1 u hu).trans (hh.same u hu)⟩
  show Holding root base k d₀ s'.folders s'.disk
  rcases hadv.folders with ⟨-, rfl, -⟩ | ⟨-, hfolders⟩
  · exact hfinish
  rcases hadv.disk with hd | rfl | ⟨file, verdict, hstage, rfl⟩
  · rwa [hd, hfolders]
  · exact hfinish
  -- a file that is deleted lies in a folder of the job
  obtain ⟨folder, hfolder, other, hother, rfl⟩ := hown.listed job hjob file
    (hserves.files file (Worker.mem_ahead_of_stage (by rw [hstage]; rfl)))
  obtain ⟨i, -, rfl⟩ := hown.jobSession job hjob folder hfolder
  have hne : k ≠ i := by
    rintro rfl
    exact hnot hfolder
  rw [hfolders]
  exact hh.elsewhere ((Disk.keepsTo_delete r.station hother).rooted base hr).2 hne

/-- Every move leaves the folder with what is in it. -/
theorem upholds (he : d₀.at? (base ++ [sessionName k] ++ [name]) = some node) (m : Move)
    (r : Relay) : Upholds (LeftAlone root base k d₀) r m := by
  have hst : ∀ r' : Relay, Upholds (Standing root (Rooted root base)) r' m :=
    upholds_standing (Disk.lasting_rooted root base) m
  refine ⟨?quiet, ?start, ?stop, ?flush, ?record, ?dispatch, ?advance, ?answer, ?close⟩
  case quiet =>
    intro r r' hq h
    refine h.next ((hst r).quiet hq h.standing) hq.toggles (by rw [hq.queue]) fun _ hh => ?_
    rwa [hq.folders, hq.disk]
  case start => exact fun {r} h => h.start ((hst r).start h.standing)
  -- that nobody records into the folder any more is nothing to what it holds
  case stop =>
    intro r h
    have hstarts := starts_endSession r
    refine ⟨(hst r).stop h.standing, h.closed, hstarts ▸ h.started, fun hn => ?_⟩
    rw [hstarts] at hn
    exact ⟨(h.holding hn).folder, (h.holding hn).same⟩
  case flush => exact fun {r} h => h.flush he ((hst r).flush h.standing)
  case record => exact fun hm h => h.record ((hst r).record hm h.standing)
  case dispatch =>
    intro hm h
    have hstanding := (hst r).dispatch hm h.standing
    rcases dispatch_cases r with hsame | ⟨queue, hd, hnext⟩
    · rwa [hsame]
    · rw [hnext] at hstanding ⊢
      obtain ⟨id, job, later, -, rfl⟩ := Queue.dispatch_eq_some hd
      exact h.next hstanding rfl rfl fun _ hh => hh
  case advance => exact fun hm h => h.advance he _ ((hst r).advance hm h.standing)
  case answer =>
    intro id answer hm h
    have hstanding := (hst r).answer hm h.standing
    rcases answerWorker_cases r id answer with
      hsame | ⟨w, s', w', request, file, -, -, -, hrec, hnext⟩
    · rwa [hsame]
    · rw [hnext] at hstanding ⊢
      refine h.next hstanding rfl (Queue.update_alive _ _ _) fun _ hh => ?_
      show Holding root base k d₀ s'.folders s'.disk
      rwa [hrec.disk, hrec.folders.2]
  case close =>
    intro hm h
    exact ⟨(hst r).close hm h.standing, rfl, h.started, h.holding⟩

end LeftAlone

/-! ## A flush that is refused -/

/-- A flush takes a folder again, with the same recordings in it. -/
structure TakesAgain (r r' : Relay) (p : Path) : Prop where
  folder : p ∈ r'.flushJob.folders
  recordings : ∀ file, file ∈ r'.station.disk.recordingsIn p ↔
    file ∈ r.station.disk.recordingsIn p
  files : ∀ file ∈ r.station.disk.recordingsIn p, file ∈ r'.flushJob.files ∧
    ∃ bytes, r.station.disk.read file = .ok bytes ∧ r'.station.disk.read file = .ok bytes

/-- The queue hands a flush back, which changes nothing but the folders that it has taken, and the
empty directories of some of them. -/
structure TurnedDown (r : Relay) : Prop where
  handedBack : ∀ job, r.queue.submit job = .error job
  /-- No report will come. -/
  noReport : r.flush.2 = none
  rest : ∃ folders disk, r.flush.1 = { r with
    station := { r.station with folders, disk }
    pending := .empty }
  entries : ∀ v node, node ≠ .directory →
    (r.flush.1.station.disk.at? v = some node ↔ r.station.disk.at? v = some node)
  active : r.flush.1.station.folders.active = r.station.folders.active
  /-- Whoever is in processing was so before. -/
  processing : ∀ f ∈ r.flush.1.station.folders.folders, f.state = .processing →
    f ∈ r.station.folders.folders
  /-- The folder that is being recorded into, and those of earlier jobs, stay as they are. -/
  others : ∀ f ∈ r.station.folders.folders,
    f.state = .processing ∨ r.station.folders.active = some f.path →
      f ∈ r.flush.1.station.folders.folders

/-- Of the folders that a refused flush has taken, those that hold anything are left over, and are
taken again; those that were empty or missing are gone. -/
structure LeavesOver (r : Relay) : Prop where
  kept : ∀ p ∈ r.flushJob.folders, r.station.disk.isVacant p = false →
    ⟨p, .finishedUnsuccessfully⟩ ∈ r.flush.1.station.folders.folders ∧
      r.station.disk.Untouched r.flush.1.station.disk p
  gone : ∀ p ∈ r.flushJob.folders, r.station.disk.isVacant p = true →
    ⟨p, .finishedSuccessfully⟩ ∈ r.flush.1.station.folders.folders ∧
      r.flush.1.station.disk.list p = .error .notFound
  others : ∀ f ∈ r.station.folders.folders,
    f.state = .processing ∨ r.station.folders.active = some f.path →
      r.station.disk.Untouched r.flush.1.station.disk f.path
  places : ∀ v, r.flush.1.station.disk.at? v = r.station.disk.at? v ∨
    r.flush.1.station.disk.at? v = none ∧ ∃ p ∈ r.flushJob.folders,
      r.station.disk.directoryOf p = .ok v ∧ r.station.disk.entriesAt v = []
  /-- Whatever the relay does in the meantime, the next flush takes what holds an entry. -/
  again : ∀ moves, (r.flush.1.run moves).starts ≤ UInt64.size → ∀ p ∈ r.flushJob.folders,
    ∀ entries, r.station.disk.list p = .ok entries → entries ≠ [] →
      TakesAgain r (r.flush.1.run moves) p

/-- What a refused flush changes at all, whatever the disk looks like. -/
theorem turnedDown (hown : Ownership r.options.root r.starts r.station.folders r.queue)
    (hclosed : r.queue.alive = false) : r.TurnedDown := by
  have hflush := flush_of_closed hclosed
  refine ⟨Queue.submit_of_closed hclosed, ?_, ?_, fun v node hnode => ?_, active_flush r,
    fun f hf hs => ?_, fun f hf hs => ?_⟩
  · unfold Relay.flush
    dsimp only
    rw [Queue.submit_of_closed hclosed]
  · exact ⟨_, _, hflush⟩
  · rw [hflush]
    obtain ⟨gone, hgone, htaken⟩ := Disk.finish_takes r.station.disk
      r.station.folders.afterScan r.station.folders.eligible
    show (Registry.finish _ _ _).1.at? v = _ ↔ _
    rw [hgone, Disk.at?_without]
    split
    · -- only directories are gone
      next hv =>
      obtain ⟨⟨p, -, -, hdir⟩, -⟩ := htaken v hv.1
      rw [(Disk.directoryOf_eq_ok_iff.1 hdir).2]
      constructor
      · exact fun e => by cases e
      · exact fun e => absurd (Option.some.inj e).symm hnode
    · exact Iff.rfl
  · rw [hflush] at hf
    exact hown.refused_processing _ hf hs
  · obtain ⟨hlive, hnot⟩ := hown.not_taken hf hs
    rw [hflush]
    exact hown.refused_other _ hf hlive hnot

/-- What holds an entry stays where it is, and the next flush takes it again. -/
theorem takes_again (howned : r.Owned) (hn : r.starts ≤ UInt64.size)
    (hr : Rooted r.options.root base r.station.disk) (hclosed : r.queue.alive = false)
    (hm : sessionFolder r.options.root k ∈ r.flushJob.folders) (hk : k < r.starts)
    (he : r.station.disk.at? (base ++ [sessionName k] ++ [name]) = some node)
    {moves : List Move} (hlater : (r.flush.1.run moves).starts ≤ UInt64.size) :
    TakesAgain r (r.flush.1.run moves) (sessionFolder r.options.root k) := by
  have hown := howned.ownership hn
  have hstanding : Standing r.options.root (Rooted r.options.root base) r :=
    ⟨howned, rfl, fun _ => hr⟩
  -- the flush itself finds the folder full, and gives it back
  have hfirst : Holding r.options.root base k r.station.disk r.flush.1.station.folders
      r.flush.1.station.disk := by
    obtain ⟨hdir, hfull⟩ := hr.full_of_entry he
    obtain ⟨hfolder, hsame⟩ := hown.refused_kept (Or.inr ⟨base, hr⟩) hm hfull
    rw [flush_of_closed hclosed]
    exact ⟨hfolder, hsame.below _ hdir⟩
  have hleft : LeftAlone r.options.root base k r.station.disk r.flush.1 := by
    refine ⟨hstanding.flush (Disk.lasting_rooted _ base), ?_, ?_, fun _ => hfirst⟩
    · rw [flush_of_closed hclosed]
      exact hclosed
    · rwa [starts_eq (toggles_flush r)]
  -- from then on every move leaves the folder alone
  have hend : LeftAlone r.options.root base k r.station.disk (r.flush.1.run moves) :=
    run_keeps (fun m _ => LeftAlone.upholds he m) hleft
  have hh := hend.holding hlater
  obtain ⟨hrecordings, hfiles⟩ := hh.recordings hr (hend.standing.disk hlater)
  have hfolder : sessionFolder r.options.root k ∈ (r.flush.1.run moves).flushJob.folders :=
    hh.mem_eligible (hend.standing.ownership hlater)
  exact ⟨hfolder, hrecordings, fun file hfile =>
    ⟨mem_recordings.2 ⟨_, hfolder, (hrecordings file).2 hfile⟩, hfiles file hfile⟩⟩

/-- What a refused flush leaves where the folders are placed. -/
theorem leavesOver (howned : r.Owned) (hn : r.starts ≤ UInt64.size)
    (hp : Placed r.options.root r.station.disk) (hclosed : r.queue.alive = false) :
    r.LeavesOver := by
  have hown := howned.ownership hn
  have hflush := flush_of_closed hclosed
  refine ⟨fun p hm hv => ?_, fun p hm hv => ?_, fun f hf hs => ?_, fun v => ?_,
    fun moves hlater p hm entries hl hne => ?_⟩
  · rw [hflush]
    exact hown.refused_kept hp hm hv
  · rw [hflush]
    exact hown.refused_gone hp hm hv
  · obtain ⟨hlive, hnot⟩ := hown.not_taken hf hs
    rw [hflush]
    exact hown.refused_untouched hp hf hlive hnot
  · rw [hflush]
    exact hp.finish_places (Ownership.distinct_afterScan hown.distinct) hown.exists_afterScan
      hown.exists_eligible v
  · obtain ⟨k, hk, rfl⟩ := (hown.eligible_spec hm).1
    rcases hp with hu | ⟨base, hr⟩
    · exact absurd hl (hu.list_ne_ok k entries)
    obtain ⟨name, node, he⟩ := hr.exists_entry hl hne
    exact takes_again howned hn hr hclosed hm hk he hlater

/-- Something is recorded in the first of two sessions, and then the queue is closed. -/
def stranding : List Move :=
  [.speech 1 0, .toggle false, .record "1-a.wav" (.file [7]), .sweep 1000, .toggle true,
    .speech 1 2000, .toggle false, .sweep 3000, .toggle true, .closeQueue]

/-- Both sessions are over, and the queue is closed. -/
def cutOff : Relay := detour.run (detourBefore ++ [.sweep 3000, .toggle true, .closeQueue])

end Relay

end PushToTalk
