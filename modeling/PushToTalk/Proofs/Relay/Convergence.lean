import Mathlib
import PushToTalk.Proofs.Relay.OneFlush
import PushToTalk.Proofs.Upload.Tick

/-
  Flushing converges.

  A flush that is run to completion, with all its exchanges answered, leaves no recording of a user
  behind: what it lists is delivered or refused, and deleted either way.  Every folder that it took
  is judged then, and gone or kept for what is left in it.  The next flush takes the kept folders
  once more, finds nothing to say about them to the backend, and leaves everything as it is.  So a
  relay that is left alone does not go on sending.

  1. **The first flush** — `Draining` is what holds while its worker is at work: a recording in one
     of its folders names no user, or is still ahead of the worker.  `Spent` is what holds when the
     worker has reported back: judging a folder again changes nothing, and no recording names a
     user.  Both go through the account of one flush (`Relay.OneFlush`), which says what has to be
     shown of a worker's steps and of what the recorder writes meanwhile.

  2. **The second flush** — it takes the same folders and has its worker skip all files;
     `Spent.account` is its account.  The folders are given back in the state that they were taken
     in (`Spent.given_back`), so the flush only drops those that are finished for good from the
     registry (`Rested.flush`).

  3. **The flushes after it** change nothing (`Rested.flushes`), as dropping twice is dropping once.

  There are two exceptions to what one would expect.  A file in the place of a session folder is
  kept in the registry, as it cannot be looked into.  And where the way to the recordings leads
  through a session folder, the removal of one folder can make another vanish, so the registry can
  go on changing (`flushing_goes_on`); `Suits` excludes such roots.

  Main statement: `flushing_converges`.
-/

namespace PushToTalk

open Upload (Exchange Job JobId Outcome Queue Report Worker)
open Disk (Placed Suits Leftover)

/-- The name of the file names no user. -/
def Path.IsNobodys (p : Path) : Prop := ∃ why, UserId.ofPath p = .error why

/-- The backend answers; asked for a new file, it names one. -/
def Upload.Exchange.IsTaken (x : Exchange) : Prop :=
  ∃ text, x.answer = .body text ∧
    (x.request.method = .put → ∃ fileId, Upload.parseCreated text = .ok fileId)

/-- Nothing was delivered, refused or failed. -/
structure Upload.Report.IsClean (report : Report) : Prop where
  uploaded : report.uploaded = []
  failed : report.failed = []
  rejected : report.rejected = []

/-- The registry without the folders that are finished for good. -/
def Registry.pruned (reg : Registry) : Registry :=
  { reg with folders := reg.folders.filter fun f => f.state != .finishedSuccessfully }

namespace Relay

variable {root : Path} {d d' d₀ : Disk} {r r' : Relay} {reg : Registry} {n : Nat} {id : JobId}
  {job : Job} {ahead : List Path}

/-! ## The first flush -/

/-- Every folder is being recorded into or is one of the job's, and in the job's folders only
recordings that name no user, and those still ahead, are left. -/
structure Draining (job : Job) (ahead : List Path) (reg : Registry) (d : Disk) : Prop where
  covers : ∀ f ∈ reg.folders, reg.active = some f.path ∨ f.path ∈ job.folders
  drains : ∀ folder ∈ job.folders, ∀ p ∈ d.recordingsIn folder, p.IsNobodys ∨ p ∈ ahead

/-- Nothing is left to do: a folder is being recorded into, or it rests, and no recording in it
names a user. -/
def Spent (reg : Registry) (d : Disk) : Prop :=
  ∀ f ∈ reg.folders, reg.active = some f.path ∨
    (f.Rests d ∧ ∀ p ∈ d.recordingsIn f.path, p.IsNobodys)

/-- What is ahead after a file was left behind. -/
theorem Draining.next (h : Draining job ahead reg d) {ahead' : List Path}
    (hd : ∀ folder ∈ job.folders, ∀ p ∈ d'.recordingsIn folder,
      p ∈ d.recordingsIn folder ∧ (p ∈ ahead → p.IsNobodys ∨ p ∈ ahead')) :
    Draining job ahead' reg d' := by
  refine ⟨h.covers, fun folder hf p hp => ?_⟩
  obtain ⟨hold, hahead⟩ := hd folder hf p hp
  rcases h.drains folder hf p hold with hn | hm
  · exact Or.inl hn
  · exact hahead hm

/-- A recording can be read. -/
theorem read_of_recording (h : Placed root d) {p : Path}
    (hp : p ∈ d.recordingsIn (sessionFolder root n)) : ∃ chunks, Chunk.read d p = .ok chunks := by
  rcases h with hu | ⟨base, hr⟩
  · rw [Disk.recordingsIn_of_unlisted (hu.list_ne_ok n)] at hp
    cases hp
  · obtain ⟨name, bytes, hname, rfl, ha, -⟩ := hr.mem_recordingsIn.1 hp
    exact ⟨_, Chunk.read_eq_ok.2 ⟨bytes, hr.read_entry hname ha, rfl⟩⟩

/-- What the flush takes is what drains. -/
theorem draining_flush (hown : Ownership root n r.station.folders r.queue)
    (hidle : ∀ f ∈ r.station.folders.folders, f.state ≠ .processing) :
    Draining r.flushJob r.flushJob.files r.station.folders.afterScan r.station.disk := by
  refine ⟨fun f' hf' => ?_, fun folder hf p hp => Or.inr (mem_recordings.2 ⟨folder, hf, hp⟩)⟩
  obtain ⟨f, hf, hgood, hpath, hcase⟩ := Ownership.mem_afterScan hf'
  rw [hpath]
  cases he : r.station.folders.isEligible f with
  | true => exact Or.inr ((Ownership.mem_eligible _).2 ⟨f, hf, he, rfl⟩)
  | false =>
    -- a folder that is neither finished for good nor in processing is left out as it is active
    left
    have hproc := hidle f hf
    have hactive : r.station.folders.isActive f.path = true := by
      simpa [Registry.isEligible, hgood, hproc] using he
    exact (hown.isActive_iff hf).1 hactive

/-- A job that is done with folders that have drained has nothing left to do. -/
theorem Draining.finish (h : Draining job [] reg d) (hp : Placed root d) (hd : reg.Distinct)
    (hs : ∀ f ∈ reg.folders, ∃ k, f.path = sessionFolder root k)
    (hjob : ∀ p ∈ job.folders, ∃ k, p = sessionFolder root k) :
    Spent (Registry.finish d reg job.folders).2 (Registry.finish d reg job.folders).1 := by
  obtain ⟨hactive, g, hg, hjudge⟩ := Registry.finish_judges d hd job.folders
  have hrest := hp.finish_rests hd hs hjob (P := fun _ => False) (fun _ _ hf => hf.elim)
  intro f' hf'
  rw [hactive]
  have hmem := hf'
  rw [hg] at hmem
  obtain ⟨f, hf, rfl⟩ := List.mem_map.1 hmem
  rw [(hjudge f hf).1]
  refine (h.covers f hf).imp_right fun hm => ?_
  refine ⟨hrest _ hf' (Or.inr ((hjudge f hf).1.symm ▸ hm)), fun p hpm => ?_⟩
  obtain ⟨k, hk⟩ := hjob f.path hm
  have hold : p ∈ d.recordingsIn f.path := by
    rw [hk] at hpm ⊢
    exact hp.recordings_finish hjob hpm
  exact (h.drains f.path hm p hold).resolve_right List.not_mem_nil

/-- A worker that makes a step leaves a recording behind only if it names no user, or cannot be
read, or is deleted. -/
theorem Draining.advance (htidy : Tidy root d₀ r) (hn : r.starts ≤ UInt64.size) {w w' : Worker}
    {s' : Station} (hrun : (id, w) ∈ r.queue.running) (hw : w.Serves job)
    (hjob : ∀ p ∈ job.folders, ∃ k, p = sessionFolder root k)
    (h : Draining job w.ahead r.station.folders r.station.disk)
    (ha : Worker.Advances r.fetches.answer? r.station w s' w') :
    (w'.stage = .ended → Spent s'.folders s'.disk) ∧
      (w'.stage ≠ .ended → Draining job w'.ahead s'.folders s'.disk) := by
  have hown := htidy.ownership hn
  have hp := (htidy.swept hn).placed
  constructor
  · intro he
    obtain ⟨hs, ht, rfl, -⟩ := ha.of_ended he
    rw [Worker.ahead_idle hs, ht] at h
    show Spent (Registry.finish r.station.disk r.station.folders w.folders).2 _
    rw [hw.folders]
    exact h.finish hp hown.distinct (fun f hf => (hown.session f hf).exists_eq) hjob
  intro hne
  have hat : ∀ {file}, w.stage.file? = some file →
      Draining job (file :: w.todo) r.station.folders r.station.disk := fun hf =>
    Worker.ahead_eq hf ▸ h
  cases ha with
  | @begin file later _ hs ht hb =>
    rw [Worker.ahead_idle hs, ht] at h
    cases hb with
    | skip hu =>
      rw [Worker.ahead_handled]
      refine h.next fun folder hf p hpm => ⟨hpm, fun hm => ?_⟩
      rcases List.mem_cons.1 hm with rfl | hm
      · exact Or.inl ⟨_, hu⟩
      · exact Or.inr hm
    | read => exact h
    | await => exact h
  | finish => exact absurd rfl hne
  | resolve hs => exact hat (by rw [hs]; rfl)
  | read hs => exact hat (by rw [hs]; rfl)
  | @unread d why hs hr =>
    show Draining job (w.handled d.file _).ahead r.station.folders r.station.disk
    rw [Worker.ahead_handled]
    refine (hat (by rw [hs]; rfl)).next fun folder hf p hpm => ⟨hpm, fun hm => ?_⟩
    rcases List.mem_cons.1 hm with rfl | hm
    · -- what is still listed as a recording could have been read
      obtain ⟨k, rfl⟩ := hjob folder hf
      obtain ⟨chunks, hchunks⟩ := read_of_recording hp hpm
      rw [hchunks] at hr
      cases hr
    · exact Or.inr hm
  | close hs => exact hat (by rw [hs]; rfl)
  | @clear file verdict hs =>
    rw [Station.delete_folders, Worker.ahead_handled]
    obtain ⟨m, name, hname, rfl⟩ := file_of_running hown hrun (by rw [hs]; rfl)
    refine (hat (by rw [hs]; rfl)).next fun folder hf p hpm => ?_
    obtain ⟨k, rfl⟩ := hjob folder hf
    obtain ⟨hold, hother⟩ := hp.recordings_delete hname hpm
    exact ⟨hold, fun hm => Or.inr ((List.mem_cons.1 hm).resolve_left hother)⟩

/-- An exchange that is taken leaves the worker at its file. -/
theorem ahead_of_taken {w w' : Worker} {s s' : Station} {request : Request} {file : Path}
    {answer : Answer} (hreq : w.stage.request? = some request)
    (hx : Exchange.IsTaken ⟨file, request, answer⟩) (hrec : Worker.Receives s w answer s' w') :
    w'.stage ≠ .dead ∧ w'.ahead = w.ahead := by
  obtain ⟨text, ha, hcreated⟩ := hx
  obtain rfl : answer = .body text := ha
  refine ⟨hrec.ne_dead Answer.noConfusion, ?_⟩
  cases hrec with
  | created hs | sent hs =>
    rw [Worker.ahead_of_stage (Worker.file?_sendFrom _ _ _ _),
      Worker.ahead_eq (w := w) (by rw [hs]; rfl)]
  | verdict hs =>
    rw [Worker.ahead_eq (w := w) (by rw [hs]; rfl)]
    rfl
  | @unnamed d chunks _ _ hs hp =>
    rw [hs] at hreq
    obtain rfl := Option.some.inj hreq
    obtain ⟨fileId, hnamed⟩ := hcreated rfl
    rw [hp] at hnamed
    cases hnamed

/-- The recorder reaches the active folder only. -/
theorem record_reaches (hown : Ownership root n r.station.folders r.queue)
    (name : String) (node : Disk.Node) : r.record name node = r ∨
      ∃ i disk, r.station.folders.active = some (sessionFolder root i) ∧
        Disk.KeepsTo root i r.station.disk disk ∧
        r.record name node = { r with station := { r.station with disk } } := by
  rcases record_cases r name node with he | ⟨folder, disk, ha, hm, he⟩
  · exact Or.inl he
  · obtain ⟨⟨i, -, rfl⟩, -, -⟩ := hown.active folder ha
    exact Or.inr ⟨i, disk, ha, Disk.keepsTo_make hm, he⟩

/-- What is recorded meanwhile is none of the job's. -/
theorem Draining.record (hk : Disk.KeepsTo root n d d') (hp : Placed root d)
    (hnot : sessionFolder root n ∉ job.folders)
    (hjob : ∀ p ∈ job.folders, ∃ k, p = sessionFolder root k) (h : Draining job ahead reg d) :
    Draining job ahead reg d' := by
  refine h.next fun folder hf p hpm => ?_
  obtain ⟨m, rfl⟩ := hjob folder hf
  have hne : m ≠ n := by
    rintro rfl
    exact hnot hf
  exact ⟨hp.recordings_elsewhere hk hne hpm, Or.inr⟩

/-- What is recorded into the active folder leaves nothing to do in the others. -/
theorem Spent.record (hk : Disk.KeepsTo root n d d') (hp : Placed root d)
    (ha : reg.active = some (sessionFolder root n))
    (hs : ∀ f ∈ reg.folders, ∃ k, f.path = sessionFolder root k) (h : Spent reg d) :
    Spent reg d' := by
  intro f hf
  obtain ⟨m, hm⟩ := hs f hf
  by_cases hne : m = n
  · left
    rw [ha, hm, hne]
  refine (h f hf).imp_right fun ⟨hrest, hnobody⟩ => ?_
  unfold Folder.Rests at hrest ⊢
  rw [hm] at hrest hnobody ⊢
  exact ⟨hp.settle_elsewhere hk hne hrest,
    fun p hpm => hnobody p (hp.recordings_elsewhere hk hne hpm)⟩

/-- The account of a flush with all its exchanges taken. -/
theorem draining_account (id : JobId) (job : Job)
    (hjob : ∀ p ∈ job.folders, ∃ k, p = sessionFolder root k) :
    Account root d₀ id job True Exchange.IsTaken
      (fun s w => Draining job w.ahead s.folders s.disk) (fun s _ => Spent s.folders s.disk) where
  advance htidy hn hrun hw h ha := Draining.advance htidy hn hrun hw hjob h ha
  receive {r _ _ _ _ _ _} h hreq _ hx hrec := by
    obtain ⟨hdead, hahead⟩ := ahead_of_taken hreq hx hrec
    refine ⟨hdead, ?_⟩
    show Draining _ _ _ _
    rw [hahead]
    unfold Station.stores
    rw [hrec.folders.2, hrec.disk]
    exact h
  record _ r name node htidy hn hj := by
    have hown := htidy.ownership hn
    rcases record_reaches hown name node with he | ⟨i, disk, ha, hk, he⟩
    · rw [he]
      exact ⟨fun _ h => h, fun _ h => h⟩
    rw [he]
    have hp := (htidy.swept hn).placed
    have hs : ∀ f ∈ r.station.folders.folders, ∃ k, f.path = sessionFolder root k :=
      fun f hf => (hown.session f hf).exists_eq
    exact ⟨fun w h => Draining.record hk hp ((hown.active _ ha).2.2 job hj) hjob h,
      fun _ h => Spent.record hk hp ha hs h⟩

/-! ## Every later flush -/

/-- When nothing is left to do, a registered folder that is neither finished for good nor being
recorded into holds something that stays. -/
theorem Spent.leftover (h : Spent r.station.folders r.station.disk)
    (htidy : Tidy root d₀ r) (hn : r.starts ≤ UInt64.size) {f : Folder}
    (hf : f ∈ r.station.folders.folders) (hgood : f.state ≠ .finishedSuccessfully)
    (hactive : r.station.folders.active ≠ some f.path) :
    f.Rests r.station.disk ∧ r.station.disk.Leftover f.path ∧
      ∀ p ∈ r.station.disk.recordingsIn f.path, p.IsNobodys := by
  obtain ⟨k, -, hk⟩ := (htidy.ownership hn).session f hf
  obtain ⟨hrest, hnobody⟩ := (h f hf).resolve_left hactive
  refine ⟨hrest, ?_, hnobody⟩
  have hstate : (r.station.disk.settle f.path).2 = f.state := congrArg Prod.snd hrest
  have hfinished := Registry.settle_isFinished r.station.disk f.path
  rw [hstate] at hfinished
  rw [hfinished.resolve_left hgood, hk] at hstate
  rw [hk]
  exact ((htidy.swept hn).placed.settle_iff k).1 hstate

/-- A flush takes only such folders then. -/
theorem Spent.leftover_of_eligible (h : Spent r.station.folders r.station.disk)
    (htidy : Tidy root d₀ r) (hn : r.starts ≤ UInt64.size) {f : Folder}
    (hf : f ∈ r.station.folders.folders) (he : r.station.folders.isEligible f = true) :
    f.Rests r.station.disk ∧ r.station.disk.Leftover f.path ∧
      ∀ p ∈ r.station.disk.recordingsIn f.path, p.IsNobodys := by
  have hmem : f.path ∈ r.station.folders.eligible := (Ownership.mem_eligible _).2 ⟨f, hf, he, rfl⟩
  refine h.leftover htidy hn hf (fun hgood => ?_) ((htidy.ownership hn).eligible_spec hmem).2.1
  rw [Registry.isEligible, hgood] at he
  cases he

/-- Judging the folders once more removes nothing from the disk. -/
theorem Spent.finish_disk (h : Spent r.station.folders r.station.disk)
    (htidy : Tidy root d₀ r) (hn : r.starts ≤ UInt64.size) :
    (Registry.finish r.station.disk r.station.folders.afterScan
      r.station.folders.eligible).1 = r.station.disk := by
  refine Disk.finish_of_leftover fun q hq => ?_
  obtain ⟨f, hf, he, rfl⟩ := (Ownership.mem_eligible _).1 hq
  exact (h.leftover_of_eligible htidy hn hf he).2.1

/-- A folder that is scanned and given back is as it was. -/
theorem Spent.given_back (h : Spent r.station.folders r.station.disk)
    (htidy : Tidy root d₀ r) (hn : r.starts ≤ UInt64.size) {g : Folder → Folder}
    (hg : (Registry.finish r.station.disk r.station.folders.afterScan
      r.station.folders.eligible).2.folders = r.station.folders.afterScan.folders.map g)
    (hjudge : ∀ f ∈ r.station.folders.afterScan.folders,
      Registry.Judges r.station.folders.eligible f (g f)) {f : Folder}
    (hf : f ∈ r.station.folders.folders) (hgood : f.state ≠ .finishedSuccessfully) :
    g (if r.station.folders.isEligible f then { f with state := .processing } else f) = f := by
  have hown := htidy.ownership hn
  -- a folder that was not taken is not judged, and one that was taken is judged on the disk of
  -- before
  cases he : r.station.folders.isEligible f with
  | false =>
    -- nobody took the folder, so it was not judged
    have hscan := Ownership.afterScan_of_not_eligible hf hgood he
    refine (hjudge f hscan).2.2 fun p hp => ?_
    rw [(hown.session f hf).beq_false_iff (hown.eligible_spec hp).1]
    rintro rfl
    obtain ⟨f', hf', he', hpath⟩ := (Ownership.mem_eligible _).1 hp
    rw [hown.unique hf' hf hpath, he] at he'
    cases he'
  | true =>
    have hscan := Ownership.afterScan_of_eligible hf he
    have hmem : f.path ∈ r.station.folders.eligible :=
      (Ownership.mem_eligible _).2 ⟨f, hf, he, rfl⟩
    obtain ⟨hpath, -, -⟩ := hjudge _ hscan
    have hrests := (htidy.swept hn).placed.finish_rests (P := fun _ => False)
      (Ownership.distinct_afterScan hown.distinct)
      (fun f hf => (hown.session_afterScan f hf).exists_eq)
      (IsSession.paths fun p hp => (hown.eligible_spec hp).1) (fun _ _ hno => hno.elim)
      (g { f with state := .processing }) (hg ▸ List.mem_map_of_mem hscan)
      (Or.inr (hpath.symm ▸ hmem))
    -- nothing on the disk has changed, so it is the verdict of before
    rw [h.finish_disk htidy hn] at hrests
    unfold Folder.Rests at hrests
    rw [hpath] at hrests
    have hstate : (g { f with state := .processing }).state = f.state :=
      (Prod.mk.inj (hrests.symm.trans (h.leftover_of_eligible htidy hn hf he).1)).2
    calc g { f with state := .processing }
      _ = ⟨(g { f with state := .processing }).path,
          (g { f with state := .processing }).state⟩ := rfl
      _ = f := by rw [hpath, hstate]

/-- Scanned and given back, the folders are as they were, less those finished for good. -/
theorem Spent.finish_afterScan (h : Spent r.station.folders r.station.disk)
    (htidy : Tidy root d₀ r) (hn : r.starts ≤ UInt64.size) :
    Registry.finish r.station.disk r.station.folders.afterScan r.station.folders.eligible =
      (r.station.disk, r.station.folders.pruned) := by
  have hd : r.station.folders.afterScan.Distinct :=
    Ownership.distinct_afterScan (htidy.ownership hn).distinct
  obtain ⟨hactive, g, hg, hjudge⟩ := Registry.finish_judges r.station.disk hd
    r.station.folders.eligible
  have hfolders : (Registry.finish r.station.disk r.station.folders.afterScan
      r.station.folders.eligible).2.folders = r.station.folders.pruned.folders := by
    rw [hg]
    show List.map g (List.map _ _) = _
    rw [List.map_map]
    refine (List.map_congr_left fun f hf => ?_).trans (List.map_id _)
    obtain ⟨hf, hgood⟩ := List.mem_filter.1 hf
    exact h.given_back htidy hn hg hjudge hf (by simpa using hgood)
  refine Prod.ext (h.finish_disk htidy hn) ?_
  calc (Registry.finish r.station.disk r.station.folders.afterScan r.station.folders.eligible).2
    _ = ⟨(Registry.finish r.station.disk r.station.folders.afterScan
          r.station.folders.eligible).2.folders,
        (Registry.finish r.station.disk r.station.folders.afterScan
          r.station.folders.eligible).2.active⟩ := rfl
    _ = r.station.folders.pruned := by
      rw [hfolders, hactive]
      rfl

/-- The worker of a flush with nothing to do: it skips its files, and has said nothing. -/
structure Skipping (s₀ s : Stores) (w : Worker) : Prop where
  stores : s = s₀
  idle : w.stage = .idle
  nobodys : ∀ p ∈ w.todo, p.IsNobodys
  clean : w.report.IsClean

/-- The account of a flush when nothing is left to do. -/
theorem Spent.account (h : Spent r.station.folders r.station.disk) (htidy : Tidy root d₀ r)
    (hn : r.starts ≤ UInt64.size) (id : JobId) :
    Account root d₀ id r.flushJob False (fun _ => True)
      (Skipping { r.stores with folders := r.station.folders.afterScan })
      fun s report => s = { r.stores with folders := r.station.folders.pruned } ∧
        report.IsClean where
  advance {r' w w' s'} _ _ _ hw hd ha := by
    cases ha with
    | @begin file later _ hs ht hb =>
      cases hb with
      | skip hu =>
        refine ⟨fun he => by simp at he, fun _ => ⟨hd.stores, by simp, ?_, ?_⟩⟩
        · intro p hp
          refine hd.nobodys p ?_
          rw [ht]
          exact List.mem_cons_of_mem _ (by simpa using hp)
        · rw [Worker.handled_report]
          exact ⟨hd.clean.uploaded, hd.clean.failed, hd.clean.rejected⟩
      -- there is no file left that has a user
      | read hu | await hu =>
        obtain ⟨why, hnone⟩ := hd.nobodys file (by rw [ht]; exact List.mem_cons_self)
        rw [hu] at hnone
        cases hnone
    | finish =>
      refine ⟨fun _ => ⟨?_, hd.clean.uploaded, hd.clean.failed, hd.clean.rejected⟩,
        fun he => absurd rfl he⟩
      have hcache : r'.station.cache = r.station.cache := congrArg Stores.cache hd.stores
      have hfolders : r'.station.folders = r.station.folders.afterScan :=
        congrArg Stores.folders hd.stores
      have hdisk : r'.station.disk = r.station.disk := congrArg Stores.disk hd.stores
      have hexchanges : r'.exchanges = r.exchanges := congrArg Stores.exchanges hd.stores
      show Stores.mk r'.station.cache
        (Registry.finish r'.station.disk r'.station.folders w.folders).2
        (Registry.finish r'.station.disk r'.station.folders w.folders).1 r'.exchanges = _
      rw [hcache, hfolders, hdisk, hexchanges, hw.folders,
        show r.flushJob.folders = r.station.folders.eligible from rfl,
        h.finish_afterScan htidy hn]
      rfl
    -- in these stages the worker is about a file, and it never is
    | resolve hs | read hs | unread hs | close hs | clear hs =>
      rw [hd.idle] at hs
      cases hs
  receive hd hreq := by
    rw [hd.idle] at hreq
    cases hreq
  record hno := hno.elim

/-- A flush that is complete, and nothing else in between that folders or files depend on. -/
def FlushesTo (r r' : Relay) : Prop :=
  ∃ moves, (∀ m ∈ moves, m.Undisturbing) ∧ r' = r.run (.flush :: moves) ∧ r'.queue.Idle

/-- A relay between two flushes that has nothing left to do. -/
structure Rested (root : Path) (d₀ : Disk) (r : Relay) : Prop where
  tidy : Tidy root d₀ r
  few : r.starts ≤ UInt64.size
  idle : r.queue.Idle
  spent : Spent r.station.folders r.station.disk

/-- A flush that the queue takes changes nothing but the registry, and that by a scan. -/
theorem stores_flush (halive : r.queue.alive = true) :
    r.flush.1.stores = { r.stores with folders := r.station.folders.afterScan } := by
  rw [flush_of_alive halive]
  rfl

/-- The first flush leaves nothing to do. -/
theorem rested_run (hs : Suits root d₀) (htidy : Tidy root d₀ r) (hn : r.starts ≤ UInt64.size)
    (hidle : r.queue.Idle) (hproc : ∀ f ∈ r.station.folders.folders, f.state ≠ .processing)
    {moves : List Move} (hm : ∀ m ∈ moves, m.Undisturbing ∨ m.isRecord = true)
    (hidle' : (r.run (.flush :: moves)).queue.Idle)
    (htaken : ∀ x ∈ (r.run (.flush :: moves)).exchanges.drop r.exchanges.length, x.IsTaken) :
    Rested root d₀ (r.run (.flush :: moves)) := by
  have hown := htidy.ownership hn
  have haccount : Account root d₀ r.queue.jobs.length r.flushJob True Exchange.IsTaken _ _ :=
    draining_account _ _ (IsSession.paths fun p hp => (hown.eligible_spec hp).1)
  obtain ⟨htidy', hn', report, -, hspent⟩ := haccount.run hs htidy hn hidle
    (by rw [stores_flush hidle.alive]; exact draining_flush hown hproc)
    (fun m hmem => (hm m hmem).imp_right fun hrec => ⟨trivial, hrec⟩) hidle' htaken
  exact ⟨htidy', hn', hidle', hspent⟩

/-- A flush with nothing to do drops the folders that are finished for good from the registry, and
changes nothing else. -/
theorem Rested.flush (hs : Suits root d₀) (h : Rested root d₀ r) (hf : FlushesTo r r') :
    Rested root d₀ r' ∧
      r'.stores = { r.stores with folders := r.station.folders.pruned } ∧
      ∃ report, r'.queue.report? r.queue.jobs.length = some report ∧ report.IsClean := by
  obtain ⟨moves, hm, rfl, hidle'⟩ := hf
  have haccount := h.spent.account h.tidy h.few r.queue.jobs.length
  have hstart : Skipping { r.stores with folders := r.station.folders.afterScan }
      r.flush.1.stores
      (Worker.start r.flushJob.files r.flushJob.folders r.flushJob.pending) := by
    refine ⟨stores_flush h.idle.alive, rfl, fun p hp => ?_, rfl, rfl, rfl⟩
    obtain ⟨folder, hfolder, hin⟩ := mem_recordings.1 hp
    obtain ⟨f, hf, he, rfl⟩ := (Ownership.mem_eligible _).1 hfolder
    exact (h.spent.leftover_of_eligible h.tidy h.few hf he).2.2 p hin
  obtain ⟨htidy', hn', report, hreport, hstores, hclean⟩ := haccount.run hs h.tidy h.few h.idle
    hstart (fun m hmem => Or.inl (hm m hmem)) hidle' fun _ _ => trivial
  refine ⟨⟨htidy', hn', hidle', ?_⟩, hstores, report, hreport, hclean⟩
  have hfolders : (r.run (.flush :: moves)).station.folders = r.station.folders.pruned :=
    congrArg Stores.folders hstores
  have hdisk : (r.run (.flush :: moves)).station.disk = r.station.disk :=
    congrArg Stores.disk hstores
  rw [hfolders, hdisk]
  exact fun f hf => h.spent f (List.mem_of_mem_filter hf)

/-- What was dropped once cannot be dropped again. -/
theorem pruned_pruned (reg : Registry) : reg.pruned.pruned = reg.pruned := by
  unfold Registry.pruned
  rw [List.filter_filter]
  simp only [Bool.and_self]

/-- Pruned, the registry is the same after any number of further flushes, and so is all else. -/
theorem Rested.flushes (hs : Suits root d₀) (h : Rested root d₀ r)
    (hpruned : r.station.folders.pruned = r.station.folders)
    (hf : Relation.ReflTransGen FlushesTo r r') : Rested root d₀ r' ∧ r'.stores = r.stores := by
  induction hf with
  | refl => exact ⟨h, rfl⟩
  | @tail r₁ r₂ _ hlast ih =>
    obtain ⟨hrested, hsame⟩ := ih
    obtain ⟨hrested', hstores, -⟩ := hrested.flush hs hlast
    have hfolders : r₁.station.folders = r.station.folders := congrArg Stores.folders hsame
    refine ⟨hrested', hstores.trans ?_⟩
    rw [hfolders, hpruned, hsame]
    rfl

/-- The second of two flushes has nothing to do, and leaves a registry of the folders that hold
something, and the one that is being recorded into. -/
structure Converged (root : Path) (r r' : Relay) : Prop where
  silent : r'.exchanges = r.exchanges
  disk : r'.station.disk = r.station.disk
  cache : r'.station.cache = r.station.cache
  report : ∃ report, r'.queue.report? r.queue.jobs.length = some report ∧ report.IsClean
  active : ∀ a, r'.station.folders.active = some a →
    ∃ f ∈ r'.station.folders.folders, f.path = a
  full : ∀ k < r'.starts, ∀ entries,
    r'.station.disk.list (sessionFolder root k) = .ok entries → entries ≠ [] →
    ∃ f ∈ r'.station.folders.folders, f.path = sessionFolder root k
  kept : ∀ f ∈ r'.station.folders.folders,
    r'.station.folders.active = some f.path ∨ r'.station.disk.Leftover f.path
  /-- Further flushes change nothing any more. -/
  steady : ∀ r'', Relation.ReflTransGen FlushesTo r' r'' → r''.stores = r'.stores

/-- Of a relay that has nothing left to do, everything that is asked of the second flush. -/
theorem Rested.converged (hs : Suits root d₀) (h : Rested root d₀ r) (hf : FlushesTo r r') :
    Converged root r r' := by
  obtain ⟨h', hstores, hreport⟩ := h.flush hs hf
  have hfolders : r'.station.folders = r.station.folders.pruned := congrArg Stores.folders hstores
  have hpruned : r'.station.folders.pruned = r'.station.folders := by
    rw [hfolders, pruned_pruned]
  have hown := h'.tidy.ownership h'.few
  refine ⟨congrArg Stores.exchanges hstores, congrArg Stores.disk hstores,
    congrArg Stores.cache hstores, hreport, ?_, ?_, ?_, fun r'' hf => (h'.flushes hs hpruned hf).2⟩
  · intro a ha
    obtain ⟨-, ⟨f, hmem, hpath, -⟩, -⟩ := hown.active a ha
    exact ⟨f, hmem, hpath⟩
  · intro k hk entries hl _
    obtain ⟨f, hmem, hpath, -⟩ := h'.tidy.listed_of_entries h'.few hk hl
    exact ⟨f, hmem, hpath⟩
  · intro f hmem
    by_cases ha : r'.station.folders.active = some f.path
    · exact Or.inl ha
    right
    -- what was finished well is dropped by the flush
    have hgood : f.state ≠ .finishedSuccessfully := by
      rw [← hpruned] at hmem
      simpa using (List.mem_filter.1 hmem).2
    exact (h'.spent.leftover h'.tidy h'.few hmem hgood ha).2.1

/-- Two flushes that are complete, one after the other, of a relay that started as `r₀`.  Nothing
waits, runs or is in processing before the first one, and whatever it says to the backend is taken.
Until the second one the recorder may write, nobody else. -/
structure FlushedTwice (r₀ r r₁ r₂ : Relay) : Prop where
  reached : ∃ before, r = r₀.run before
  few : r.starts ≤ UInt64.size
  idle : r.queue.Idle
  free : ∀ f ∈ r.station.folders.folders, f.state ≠ .processing
  first : ∃ moves, (∀ m ∈ moves, m.Undisturbing ∨ m.isRecord = true) ∧
    r₁ = r.run (.flush :: moves) ∧ r₁.queue.Idle
  taken : ∀ x ∈ r₁.exchanges.drop r.exchanges.length, x.IsTaken
  second : FlushesTo r₁ r₂

/-- A queue in which nothing waits and nothing runs, seen from its counts. -/
theorem idle_of_counts {q : Queue}
    (h : (q.alive, q.waiting.length, q.running.length) = (true, 0, 0)) : q.Idle := by
  obtain ⟨halive, hcounts⟩ := Prod.mk.inj h
  obtain ⟨hwaiting, hrunning⟩ := Prod.mk.inj hcounts
  exact ⟨halive, List.eq_nil_of_length_eq_zero hwaiting, List.eq_nil_of_length_eq_zero hrunning⟩

/-- A flush of folders without recordings, complete. -/
def flushEmpty (r : Relay) (id : JobId) : Relay := r.run [.flush, .dispatch, .advance id]

/-- The start of a worker and its steps disturb no flush. -/
theorem undisturbing_flushEmpty (id : JobId) :
    ∀ m ∈ [Move.dispatch, .advance id], m.Undisturbing := by
  simp [Move.Undisturbing]

/-- Such a flush is complete when the queue is idle behind it. -/
theorem flushesTo_flushEmpty {id : JobId} (h : (r.flushEmpty id).queue.Idle) :
    FlushesTo r (r.flushEmpty id) := ⟨_, undisturbing_flushEmpty id, rfl, h⟩

/-- A session with a recording of a user, and notes. -/
def annotated : Relay := sample.run [.speech 1 0, .toggle false, .record "1-a.wav" (.file [7]),
  .record "notes.txt" (.file [9]), .sweep 1000, .toggle true]

/-- The worker that delivers the recording. -/
def delivery : List Move :=
  [.dispatch, .fetch, .tick 0 (.body "\x7b\"tickId\":3,\"elapsed\":4\x7d"),
    .advance 0, .advance 0, .advance 0, .answer 0 (.body "\x7b\"fileId\":\"x\"\x7d"),
    .answer 0 (.body ""), .advance 0, .answer 0 (.body ""), .advance 0, .advance 0]

/-- The session after the flush that delivers its recording. -/
def delivered : Relay := annotated.run (.flush :: delivery)

/-- The first flush delivers the recording, and the second one finds only the notes. -/
theorem annotated_flushed_twice :
    FlushedTwice sample annotated delivered (delivered.flushEmpty 1) where
  reached := ⟨_, rfl⟩
  few := Nat.le_trans (starts_run_le sample _) (by decide)
  idle := idle_of_counts (by cbv)
  free := by
    rw [show annotated.station.folders.folders = [⟨⟨["rec", "voice0"]⟩, .recording⟩] by cbv]
    decide
  first := by
    refine ⟨delivery, ?_, rfl, idle_of_counts (by cbv)⟩
    simp [delivery, Move.Undisturbing]
  taken := by
    rw [show List.drop annotated.exchanges.length delivered.exchanges =
      [⟨⟨["rec", "voice0", "1-a.wav"]⟩, Upload.createRequest 1,
          .body "\x7b\"fileId\":\"x\"\x7d"⟩,
        ⟨⟨["rec", "voice0", "1-a.wav"]⟩, Upload.chunkRequest "x" 0 [7], .body ""⟩,
        ⟨⟨["rec", "voice0", "1-a.wav"]⟩,
          Upload.finalizeRequest "User1" "radio" "x" ⟨some 3, some 4⟩, .body ""⟩] by cbv]
    simp only [List.forall_mem_cons]
    exact ⟨⟨_, rfl, fun _ => ⟨"x", by cbv⟩⟩, ⟨_, rfl, fun h => by cases h⟩,
      ⟨_, rfl, fun h => by cases h⟩, fun _ hx => absurd hx List.not_mem_nil⟩
  second := flushesTo_flushEmpty (idle_of_counts (by cbv))

/-- A disk with a file in the place of the first session folder. -/
def strayDisk : Disk := (Disk.blank.set ["rec"] .directory).set ["rec", "voice0"] (.file [1])

/-- Both entries of that disk stand in a directory. -/
theorem isTree_strayDisk : strayDisk.IsTree :=
  Disk.isTree_of_entries (by decide) (by decide)

/-- A session on that disk. -/
def stray : Relay :=
  (startOn strayDisk ⟨⟨["rec"]⟩, 100, 500, 4, 2⟩ ⟨"localhost", 8080, "radio"⟩
    (.folderOnly true)).run [.speech 1 0, .toggle false, .sweep 1000, .toggle true]

/-- Two sessions, the first with notes, on a way that leads through the folder of the second. -/
def byway : Relay :=
  (startOn .blank ⟨⟨["voice1", ".."]⟩, 100, 500, 4, 2⟩ ⟨"localhost", 8080, "radio"⟩
    (.folderOnly true)).run [.speech 1 0, .toggle false, .record "notes.txt" (.file [9]),
      .sweep 1000, .toggle true, .speech 1 2000, .toggle false, .sweep 3000, .toggle true]

/-- Two flushes without recordings, and without a word to the backend. -/
theorem flushed_empty_twice {r₀ r : Relay} (hreached : ∃ before, r = r₀.run before)
    (hfew : r.starts ≤ UInt64.size) (hidle : r.queue.Idle)
    (hfree : ∀ f ∈ r.station.folders.folders, f.state ≠ .processing)
    (hidle₁ : (r.flushEmpty 0).queue.Idle) (hsilent : (r.flushEmpty 0).exchanges = [])
    (hidle₂ : ((r.flushEmpty 0).flushEmpty 1).queue.Idle) :
    FlushedTwice r₀ r (r.flushEmpty 0) ((r.flushEmpty 0).flushEmpty 1) where
  reached := hreached
  few := hfew
  idle := hidle
  free := hfree
  first := ⟨_, fun m hm => Or.inl (undisturbing_flushEmpty 0 m hm), rfl, hidle₁⟩
  taken := by
    rw [hsilent, List.drop_nil]
    exact fun _ hx => absurd hx List.not_mem_nil
  second := flushesTo_flushEmpty hidle₂

/-- Two complete flushes on the disk with the file. -/
theorem stray_flushed_twice : FlushedTwice (startOn strayDisk ⟨⟨["rec"]⟩, 100, 500, 4, 2⟩
    ⟨"localhost", 8080, "radio"⟩ (.folderOnly true)) stray (stray.flushEmpty 0)
    ((stray.flushEmpty 0).flushEmpty 1) := by
  have hfolders : stray.station.folders.folders = [⟨⟨["rec", "voice0"]⟩, .recording⟩] := by cbv
  exact flushed_empty_twice ⟨_, rfl⟩ (Nat.le_trans (starts_run_le _ _) (by decide))
    (idle_of_counts (by cbv)) (by rw [hfolders]; decide) (idle_of_counts (by cbv)) (by cbv)
    (idle_of_counts (by cbv))

/-- Two complete flushes below the root that leads through a session folder. -/
theorem byway_flushed_twice : FlushedTwice (startOn .blank ⟨⟨["voice1", ".."]⟩, 100, 500, 4, 2⟩
    ⟨"localhost", 8080, "radio"⟩ (.folderOnly true)) byway (byway.flushEmpty 0)
    ((byway.flushEmpty 0).flushEmpty 1) := by
  have hfolders : byway.station.folders.folders = [⟨⟨["voice1", "..", "voice0"]⟩, .recording⟩,
      ⟨⟨["voice1", "..", "voice1"]⟩, .recording⟩] := by cbv
  exact flushed_empty_twice ⟨_, rfl⟩ (Nat.le_trans (starts_run_le _ _) (by decide))
    (idle_of_counts (by cbv)) (by rw [hfolders]; decide) (idle_of_counts (by cbv)) (by cbv)
    (idle_of_counts (by cbv))

end Relay

end PushToTalk
