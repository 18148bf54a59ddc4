import Mathlib
import PushToTalk.Proofs.Relay.Handover

/-
  The life of a session folder.

  A folder comes into the registry as one that is recorded into.  A flush takes it when it is not
  being recorded into any more; whoever was given it by the flush finishes it, for good or with
  something left over; what was left over the next flush takes again.  What is finished for good
  leaves with the next flush.

  1. **One step** — `Passes` lists the changes of state with what brings each of them about.
     `Step.turnover` says once what a step does to the whole registry: some folders leave, the
     others pass on in their order, and a new one comes behind them.  Everything else is read off
     that.

  2. **Flushing and reporting back** — the only steps that change states.  They act on paths, so it
     takes `Ownership` to see that they reach the folders of their job and no others.  A flush that
     the queue refuses does two things to a folder at once: it takes it and finishes it.

  3. **Histories** — origin and fate of each folder in a step, the order of the registry, that no
     flush takes a folder again which is finished for good, and that the next flush takes whatever
     has something left over.

  The numbers of sessions have 64 bits; what is said here is said of histories in which they last.

  Main statement: `folders_live`.
-/

namespace PushToTalk

open Upload (Job JobId Queue Worker)

/-- Finished for good or with something left over are the only ways to be finished. -/
theorem Registry.Judges.finished {paths : List Path} {f f' : Folder} (h : Judges paths f f')
    (hp : f.path ∈ paths) : f'.path = f.path ∧ f'.state.IsFinished :=
  ⟨h.1, h.2.1 ⟨f.path, hp, Path.beq_refl _⟩⟩

namespace Relay

/-- The changes of a folder's state in a step, each with what brings it about. -/
inductive Passes (r : Relay) (m : Move) (r' : Relay) (path : Path) :
    FolderState → FolderState → Prop
  /-- A flush takes a folder that is not being recorded into. -/
  | taken {s : FolderState} (hs : s = .recording ∨ s = .finishedUnsuccessfully)
      (hm : r.flushesOn m = true) (idle : r.station.folders.isActive path = false)
      (listed : path ∈ r.flushJob.folders) : Passes r m r' path s .processing
  /-- The worker of the job that has the folder reports back. -/
  | reported {s : FolderState} (hs : s.IsFinished) {id : JobId} {job : Job}
      {report : Upload.Report} (unreported : r.queue.IsOpen id job) (listed : path ∈ job.folders)
      (told : (id, .reported report) ∈ r'.queue.outcomes) : Passes r m r' path .processing s
  /-- The queue refuses the job of the flush that has just taken the folder. -/
  | refused {s : FolderState} (hs : s.IsFinished) (hm : r.flushesOn m = true)
      (closed : r.queue.alive = false) (listed : path ∈ r.flushJob.folders) :
      Passes r m r' path .processing s

/-- What becomes of a folder in a step: it stays as it is, or its state changes once; only a flush
that is refused takes it and finishes it in one step. -/
def Lives (r : Relay) (m : Move) (r' : Relay) (f f' : Folder) : Prop :=
  f'.path = f.path ∧ (f'.state = f.state ∨ Passes r m r' f.path f.state f'.state ∨
    Passes r m r' f.path f.state .processing ∧ Passes r m r' f.path .processing f'.state)

/-- What a step does to the registered folders. -/
structure Turnover (r : Relay) (m : Move) (r' : Relay) (keep : Folder → Bool)
    (next : Folder → Folder) (new : List Folder) : Prop where
  folders : r'.station.folders.folders = (r.station.folders.folders.filter keep).map next ++ new
  /-- Who stays lives on. -/
  stay : ∀ f ∈ r.station.folders.folders, keep f = true → Lives r m r' f (next f)
  /-- Only a flush drops folders, and only those that are finished for good. -/
  leave : ∀ f ∈ r.station.folders.folders, keep f = false →
    f.state = .finishedSuccessfully ∧ r.flushesOn m = true
  /-- The folder of a session that starts comes last. -/
  come : new = [] ∧ r'.starts = r.starts ∨
    new = [⟨sessionFolder r.options.root r.nextSession.toNat, .recording⟩] ∧
      r'.starts = r.starts + 1

variable {r r' : Relay} {m : Move} {root : Path} {n : Nat} {f f' : Folder}

/-- A folder that nothing happens to lives on as it is. -/
theorem Lives.refl (r : Relay) (m : Move) (r' : Relay) (f : Folder) : Lives r m r' f f :=
  ⟨rfl, Or.inl rfl⟩

/-- A step that leaves the registered folders alone. -/
theorem turnover_same (hf : r'.station.folders.folders = r.station.folders.folders)
    (ht : r'.toggles = r.toggles) : Turnover r m r' (fun _ => true) id [] where
  folders := by simpa using hf
  stay f _ _ := Lives.refl r m r' f
  leave _ _ hk := by cases hk
  come := Or.inl ⟨rfl, starts_eq ht⟩

/-! ## Flushing -/

/-- A folder that a scan hands out is taken by the flush. -/
theorem passes_of_eligible (hm : r.flushesOn m = true) (hf : f ∈ r.station.folders.folders)
    (he : r.station.folders.isEligible f = true) :
    Passes r m r' f.path f.state .processing := by
  have hlisted : f.path ∈ r.flushJob.folders := (Ownership.mem_eligible _).2 ⟨f, hf, he, rfl⟩
  simp only [Registry.isEligible, Bool.and_eq_true, bne_iff_ne, ne_eq, Bool.not_eq_true'] at he
  obtain ⟨⟨hgood, hproc⟩, hidle⟩ := he
  refine .taken ?_ hm hidle hlisted
  cases hs : f.state with
  | recording => exact Or.inl rfl
  | processing => exact absurd hs hproc
  | finishedUnsuccessfully => exact Or.inr rfl
  | finishedSuccessfully => exact absurd hs hgood

/-- A scan drops what is finished for good, and what it hands out is being processed. -/
theorem afterScan_folders (reg : Registry) : reg.afterScan.folders =
    (reg.folders.filter fun f => f.state != .finishedSuccessfully).map fun f =>
      if reg.isEligible f then { f with state := .processing } else f := rfl

/-- A flush that the queue takes: folders finished for good leave, the others are taken or stay. -/
theorem turnover_flush_taken (hm : r.flushesOn m = true) (halive : r.queue.alive = true)
    (hq : Quiet r.flush.1 r') :
    Turnover r m r' (fun f => f.state != .finishedSuccessfully) (fun f =>
      if r.station.folders.isEligible f then { f with state := .processing } else f) [] where
  folders := by
    rw [hq.folders, flush_of_alive halive, List.append_nil]
    rfl
  stay f hf _ := by
    split
    · next he => exact ⟨rfl, Or.inr (Or.inl (passes_of_eligible hm hf he))⟩
    · exact Lives.refl r m r' f
  leave f _ hk := ⟨by simpa using hk, hm⟩
  come := Or.inl ⟨rfl, starts_eq (hq.toggles.trans (toggles_flush r))⟩

/-- The folders of a flush that is refused are finished at once, and no others. -/
theorem turnover_flush_refused (hown : Ownership root n r.station.folders r.queue)
    (hm : r.flushesOn m = true) (hclosed : r.queue.alive = false) (hq : Quiet r.flush.1 r') :
    ∃ next, Turnover r m r' (fun f => f.state != .finishedSuccessfully) next [] := by
  let scan := fun f : Folder =>
    if r.station.folders.isEligible f then { f with state := .processing } else f
  obtain ⟨-, judge, hjudge, hjudged⟩ := Registry.finish_judges r.station.disk
    (Ownership.distinct_afterScan hown.distinct) r.station.folders.eligible
  refine ⟨judge ∘ scan, ?_, fun f hf hk => ?_, fun f _ hk => ⟨by simpa using hk, hm⟩,
    Or.inl ⟨rfl, starts_eq (hq.toggles.trans (toggles_flush r))⟩⟩
  · rw [hq.folders, flush_of_closed hclosed, List.append_nil]
    show (Registry.finish r.station.disk r.station.folders.afterScan _).2.folders = _
    rw [hjudge, afterScan_folders, List.map_map]
  · have hstate : f.state ≠ .finishedSuccessfully := by simpa using hk
    cases he : r.station.folders.isEligible f with
    | true =>
      have hlisted : f.path ∈ r.station.folders.eligible :=
        (Ownership.mem_eligible _).2 ⟨f, hf, he, rfl⟩
      have hscan : scan f = { f with state := .processing } := by simp [scan, he]
      obtain ⟨hpath, hfin⟩ :=
        (hjudged _ (Ownership.afterScan_of_eligible hf he)).finished hlisted
      show Lives r m r' f (judge (scan f))
      rw [hscan]
      exact ⟨hpath, Or.inr (Or.inr ⟨passes_of_eligible hm hf he,
        .refused hfin hm hclosed hlisted⟩)⟩
    | false =>
      have hscan : scan f = f := by simp [scan, he]
      -- no path that is handed out is that of the folder
      have hout : ∀ p ∈ r.station.folders.eligible, (f.path == p) = false := fun p hp => by
        obtain ⟨g, hg, heg, rfl⟩ := (Ownership.mem_eligible _).1 hp
        cases hb : f.path == g.path with
        | false => rfl
        | true =>
          rw [hown.distinct.unique hf hg hb, heg] at he
          cases he
      show Lives r m r' f (judge (scan f))
      rw [hscan, (hjudged f (Ownership.afterScan_of_not_eligible hf hstate he)).2.2 hout]
      exact Lives.refl r m r' f

/-! ## Reporting back -/

/-- A worker that reports back finishes the folders of its job, and no others. -/
theorem turnover_ended (hown : Ownership root n r.station.folders r.queue) {id : JobId}
    {w w' : Worker} (hrun : (id, w) ∈ r.queue.running) (hend : w'.stage = .ended)
    (he : r' = { r with station := r.station.finish w.folders, queue := r.queue.update id w' }) :
    ∃ next, Turnover r m r' (fun _ => true) next [] := by
  obtain ⟨job, ho, hserves, -⟩ := hown.job_of_running hrun
  obtain ⟨-, judge, hjudge, hjudged⟩ :=
    Registry.finish_judges r.station.disk hown.distinct w.folders
  have hover : (id, .reported w'.report) ∈ (r.queue.update id w').outcomes := by
    simp [Queue.update, hend]
  subst he
  refine ⟨judge, ?_, fun f hf _ => ?_, fun _ _ hk => (by cases hk), Or.inl ⟨rfl, rfl⟩⟩
  · rw [List.filter_true, List.append_nil]
    exact hjudge
  · -- a folder of the job was with it until now; a path that is not in the job is another session's
    by_cases hp : f.path ∈ w.folders
    · obtain ⟨hpath, hfin⟩ := (hjudged f hf).finished hp
      rw [hserves.folders] at hp
      obtain ⟨g, hg, hgp, hproc⟩ := hown.held id job ho f.path hp
      obtain rfl := hown.unique hf hg hgp.symm
      refine ⟨hpath, Or.inr (Or.inl ?_)⟩
      rw [hproc]
      exact .reported hfin ho hp hover
    · have hout : ∀ p ∈ w.folders, (f.path == p) = false := fun p hpm => by
        have hsession := hown.jobSession job (List.mem_of_getElem? ho.1) p (hserves.folders ▸ hpm)
        rw [(hown.session f hf).beq_false_iff hsession]
        rintro rfl
        exact hp hpm
      rw [(hjudged f hf).2.2 hout]
      exact Lives.refl r m _ f

/-- What any step does to the registered folders. -/
theorem Step.turnover (hown : Ownership root n r.station.folders r.queue) (h : Step r m r') :
    ∃ keep next new, Turnover r m r' keep next new := by
  -- all steps but three leave the registered folders as they are
  cases h with
  | quiet _ _ hq => exact ⟨_, _, _, turnover_same (by rw [hq.folders]) hq.toggles⟩
  | start _ _ he =>
    subst he
    refine ⟨fun _ => true, id, [⟨sessionFolder r.options.root r.nextSession.toNat, .recording⟩],
      ?_, fun f _ _ => Lives.refl r m _ f, fun _ _ hk => (by cases hk),
      Or.inr ⟨rfl, starts_startSession r⟩⟩
    rw [List.filter_true, List.map_id]
    rfl
  | stop _ _ he =>
    subst he
    refine ⟨fun _ => true, id, [], ?_, fun f _ _ => Lives.refl r m _ f,
      fun _ _ hk => (by cases hk), Or.inl ⟨rfl, starts_endSession r⟩⟩
    simp [endSession, tell, Registry.endRecording]
  | flush hm hq =>
    cases halive : r.queue.alive with
    | true => exact ⟨_, _, _, turnover_flush_taken hm halive hq⟩
    | false =>
      obtain ⟨next, ht⟩ := turnover_flush_refused hown hm halive hq
      exact ⟨_, _, _, ht⟩
  | record _ he =>
    subst he
    rcases record_cases r _ _ with he | ⟨folder, disk, -, -, he⟩ <;> rw [he] <;>
      exact ⟨_, _, _, turnover_same rfl rfl⟩
  | dispatch _ he =>
    subst he
    rcases dispatch_cases r with he | ⟨queue, -, he⟩ <;> rw [he] <;>
      exact ⟨_, _, _, turnover_same rfl rfl⟩
  | @advance id _ he =>
    subst he
    rcases advance_cases r id with he | ⟨w, s', w', hrun, hadv, he⟩
    · rw [he]
      exact ⟨_, _, _, turnover_same rfl rfl⟩
    rcases hadv.folders with ⟨hend, rfl, -⟩ | ⟨-, hfolders⟩
    · obtain ⟨next, ht⟩ := turnover_ended (m := m) hown hrun hend he
      exact ⟨_, _, _, ht⟩
    · rw [he]
      exact ⟨_, _, _, turnover_same (by show s'.folders.folders = _; rw [hfolders]) rfl⟩
  | @answer id answer _ he =>
    subst he
    rcases answerWorker_cases r id answer with
      he | ⟨w, s', w', request, file, -, -, -, hrec, he⟩ <;> rw [he]
    · exact ⟨_, _, _, turnover_same rfl rfl⟩
    · exact ⟨_, _, _, turnover_same (by show s'.folders.folders = _; rw [hrec.folders.2]) rfl⟩
  | close _ he =>
    subst he
    exact ⟨_, _, _, turnover_same rfl rfl⟩

variable {keep : Folder → Bool} {next : Folder → Folder} {new : List Folder}

/-- Who is registered after a step was registered before, or has just come. -/
theorem Turnover.origin (h : Turnover r m r' keep next new)
    (hf' : f' ∈ r'.station.folders.folders) :
    (∃ f ∈ r.station.folders.folders, Lives r m r' f f') ∨
      f' = ⟨sessionFolder r.options.root r.nextSession.toNat, .recording⟩ ∧
        r'.starts = r.starts + 1 := by
  rw [h.folders] at hf'
  rcases List.mem_append.1 hf' with hold | hnew
  · obtain ⟨f, hf, rfl⟩ := List.mem_map.1 hold
    obtain ⟨hf, hk⟩ := List.mem_filter.1 hf
    exact Or.inl ⟨f, hf, h.stay f hf hk⟩
  · rcases h.come with ⟨rfl, -⟩ | ⟨rfl, hstarts⟩
    · exact absurd hnew List.not_mem_nil
    · exact Or.inr ⟨List.mem_singleton.1 hnew, hstarts⟩

/-- Who was registered before a step lives on, or has left. -/
theorem Turnover.fate (h : Turnover r m r' keep next new)
    (hf : f ∈ r.station.folders.folders) :
    (∃ f' ∈ r'.station.folders.folders, Lives r m r' f f') ∨
      f.state = .finishedSuccessfully ∧ r.flushesOn m = true := by
  cases hk : keep f with
  | true =>
    refine Or.inl ⟨next f, ?_, h.stay f hf hk⟩
    rw [h.folders]
    exact List.mem_append_left _ (List.mem_map_of_mem (List.mem_filter.2 ⟨hf, hk⟩))
  | false => exact Or.inr (h.leave f hf hk)

/-- The paths of those who stay keep their order. -/
theorem Turnover.paths_sublist (h : Turnover r m r' keep next new) :
    (r'.station.folders.folders.map (·.path)).Sublist
      (r.station.folders.folders.map (·.path) ++ new.map (·.path)) := by
  have hpaths : ((r.station.folders.folders.filter keep).map next).map (·.path) =
      (r.station.folders.folders.filter keep).map (·.path) := by
    rw [List.map_map]
    refine List.map_congr_left fun f hf => ?_
    obtain ⟨hf, hk⟩ := List.mem_filter.1 hf
    exact (h.stay f hf hk).1
  rw [h.folders, List.map_append, hpaths]
  exact (List.filter_sublist.map _).append_right _

/-- A folder that is finished for good stays so. -/
theorem Lives.of_finishedSuccessfully (h : Lives r m r' f f')
    (hs : f.state = .finishedSuccessfully) : f'.state = .finishedSuccessfully := by
  obtain ⟨-, hstate⟩ := h
  have hno : ∀ {s}, ¬ Passes r m r' f.path .finishedSuccessfully s := fun hp => by
    cases hp with
    | taken hs => rcases hs with hs | hs <;> cases hs
  rw [hs] at hstate
  rcases hstate with he | hp | ⟨hp, -⟩
  · exact he
  · exact absurd hp hno
  · exact absurd hp hno

/-- A folder with something left over waits for a flush. -/
theorem Lives.of_finishedUnsuccessfully (h : Lives r m r' f f')
    (hs : f.state = .finishedUnsuccessfully) (hm : r.flushesOn m = false) : f' = f := by
  obtain ⟨hpath, hstate⟩ := h
  have hno : ∀ {s}, ¬ Passes r m r' f.path .finishedUnsuccessfully s := fun hp => by
    cases hp with
    | taken _ hflush =>
      rw [hm] at hflush
      cases hflush
  rw [hs] at hstate
  rcases hstate with he | hp | ⟨hp, -⟩
  · cases f
    cases f'
    simp_all
  · exact absurd hp hno
  · exact absurd hp hno

end Relay

namespace History

variable {h : History} {i j : Nat} {m : Move} {f : Folder}

/-- The folders that are registered after the first `i` steps. -/
def folders (h : History) (i : Nat) : List Folder := (h.after i).station.folders.folders

/-- What becomes of a folder in step `i`. -/
def LivesAt (h : History) (i : Nat) (f f' : Folder) : Prop :=
  ∃ m, h.steps[i]? = some m ∧ (h.after i).Lives m (h.after (i + 1)) f f'

/-- The lives of all session folders in a history. -/
structure FoldersLive (h : History) : Prop where
  /-- A folder stays or changes its state, or leaves: finished for good, and at a flush. -/
  fate : ∀ i < h.steps.length, ∀ f ∈ h.folders i,
    (∃ f' ∈ h.folders (i + 1), h.LivesAt i f f') ∨
      f.state = .finishedSuccessfully ∧ h.FlushesAt i
  /-- A folder that was not there before is that of a session which starts. -/
  origin : ∀ i < h.steps.length, ∀ f' ∈ h.folders (i + 1),
    (∃ f ∈ h.folders i, h.LivesAt i f f') ∨
      f' = ⟨sessionFolder h.options.root (h.after i).starts, .recording⟩ ∧
        (h.after (i + 1)).starts = (h.after i).starts + 1
  /-- No flush ever takes a folder again that is finished for good. -/
  settled : ∀ i, ∀ f ∈ h.folders i, f.state = .finishedSuccessfully →
    ∀ j, i ≤ j → h.FlushesAt j → ∀ p ∈ (h.jobAt j).folders, (p == f.path) = false
  /-- The registered folders stand in the order of their sessions. -/
  ordered : ∀ i, ((h.folders i).map (·.path)).Sublist
    ((List.range (h.after i).starts).map (sessionFolder h.options.root))
  /-- The next flush takes whatever has something left over. -/
  retried : ∀ i, ∀ f ∈ h.folders i, f.state = .finishedUnsuccessfully →
    ∀ j, i ≤ j → h.FlushesAt j → (∀ k, i ≤ k → k < j → ¬ h.FlushesAt k) →
      f.path ∈ (h.jobAt j).folders

section Folders

variable (hn : h.final.starts ≤ UInt64.size)
include hn

/-- What a step of a history does to the registered folders. -/
theorem turnover_at (hm : h.steps[i]? = some m) :
    ∃ keep next new, (h.after i).Turnover m (h.after (i + 1)) keep next new :=
  (step_at hm).turnover (ownership_after hn i)

/-- The folder of a session that starts is numbered by the sessions so far. -/
theorem folder_of_start (hs : (h.after (i + 1)).starts = (h.after i).starts + 1) :
    sessionFolder (h.after i).options.root (h.after i).nextSession.toNat =
      sessionFolder h.options.root (h.after i).starts := by
  have hle := h.starts_le_final (i + 1)
  rw [h.options_after, (h.owned_after i).next (by omega)]

/-- Who is registered after a step of a history was registered before, or has just come. -/
theorem origin_at (hm : h.steps[i]? = some m) {f' : Folder} (hf' : f' ∈ h.folders (i + 1)) :
    (∃ f ∈ h.folders i, h.LivesAt i f f') ∨
      f' = ⟨sessionFolder h.options.root (h.after i).starts, .recording⟩ ∧
        (h.after (i + 1)).starts = (h.after i).starts + 1 := by
  obtain ⟨keep, next, new, ht⟩ := turnover_at hn hm
  rcases ht.origin hf' with ⟨f, hf, hlives⟩ | ⟨rfl, hs⟩
  · exact Or.inl ⟨f, hf, m, hm, hlives⟩
  · exact Or.inr ⟨by rw [folder_of_start hn hs], hs⟩

/-- The registered folders stand in the order of their sessions. -/
theorem folders_ordered (i : Nat) : ((h.folders i).map (·.path)).Sublist
    ((List.range (h.after i).starts).map (sessionFolder h.options.root)) := by
  refine h.keeps_from (i := 0) (P := fun i => ((h.folders i).map (·.path)).Sublist
    ((List.range (h.after i).starts).map (sessionFolder h.options.root)))
    (List.nil_sublist _) ?_ ?_ (Nat.zero_le i)
  · intro i m _ hm ih
    obtain ⟨keep, next, new, ht⟩ := turnover_at hn hm
    refine ht.paths_sublist.trans ?_
    rcases ht.come with ⟨rfl, hs⟩ | ⟨rfl, hs⟩
    · rw [hs, List.map_nil, List.append_nil]
      exact ih
    · rw [hs, List.range_succ, List.map_append, folder_of_start hn hs]
      exact ih.append_right _
  · intro i hm ih
    unfold folders
    rw [after_succ_of_none hm]
    exact ih

/-- Once a folder is finished for good, whoever is registered under its path is. -/
theorem settled_at (hf : f ∈ h.folders i) (hs : f.state = .finishedSuccessfully) (hij : i ≤ j) :
    ∀ g ∈ h.folders j, g.path = f.path → g.state = .finishedSuccessfully := by
  obtain ⟨k, hk, hpath⟩ := (ownership_after hn i).session f hf
  -- the folder itself may leave; what is kept is that nobody else comes under its path in another
  -- state
  refine h.keeps_from (i := i) (P := fun j => ∀ g ∈ h.folders j, g.path = f.path →
    g.state = .finishedSuccessfully) ?_ ?_ ?_ hij
  · intro g hg hp
    rwa [(ownership_after hn i).unique hg hf hp]
  · intro j m hij hm ih g' hg' hp
    rcases origin_at hn hm hg' with ⟨g, hg, m', hm', hlives⟩ | ⟨rfl, -⟩
    · exact hlives.of_finishedSuccessfully (ih g hg (hlives.1.symm.trans hp))
    · -- the path would be that of a session which had started before
      have hle := h.starts_mono hij
      have heq : (h.after j).starts = k := sessionFolder_injective (hp.trans hpath)
      omega
  · intro j hm ih
    unfold folders
    rw [after_succ_of_none hm]
    exact ih

/-- A folder with something left over is there, as it is, until the next flush. -/
theorem left_over_at (hf : f ∈ h.folders i) (hs : f.state = .finishedUnsuccessfully)
    (hij : i ≤ j) (hnone : ∀ k, i ≤ k → k < j → ¬ h.FlushesAt k) : f ∈ h.folders j := by
  refine h.keeps_from (i := i) (P := fun j => (∀ k, i ≤ k → k < j → ¬ h.FlushesAt k) →
    f ∈ h.folders j) (fun _ => hf) ?_ ?_ hij hnone
  · intro j m hij hm ih hnone
    have hf := ih fun k hik hkj => hnone k hik (by omega)
    have hno : (h.after j).flushesOn m = false := by
      cases hflush : (h.after j).flushesOn m with
      | false => rfl
      | true => exact absurd ⟨m, hm, hflush⟩ (hnone j hij (Nat.lt_succ_self j))
    obtain ⟨keep, next, new, ht⟩ := turnover_at hn hm
    rcases ht.fate hf with ⟨f', hf', hlives⟩ | ⟨-, hflush⟩
    · rwa [← hlives.of_finishedUnsuccessfully hs hno]
    · rw [hno] at hflush
      cases hflush
  · intro j hm ih hnone
    unfold folders
    rw [after_succ_of_none hm]
    exact ih fun k hik hkj => hnone k hik (by omega)

/-- The folder that is being recorded into has nothing left over. -/
theorem idle_of_left_over (hf : f ∈ h.folders i) (hs : f.state = .finishedUnsuccessfully) :
    (h.after i).station.folders.isActive f.path = false := by
  have hown := ownership_after hn i
  cases hact : (h.after i).station.folders.isActive f.path with
  | false => rfl
  | true =>
    obtain ⟨-, ⟨g, hg, hgp, hrec⟩, -⟩ := hown.active _ ((hown.isActive_iff hf).1 hact)
    rw [hown.unique hg hf hgp, hs] at hrec
    cases hrec

end Folders

/-- Session folders live from one state to the next as they should: as long as the numbers of
sessions last, in any history. -/
theorem folders_live (h : History) (hn : h.final.starts ≤ UInt64.size) : h.FoldersLive where
  fate i hi f hf := by
    have hm : h.steps[i]? = some h.steps[i] := List.getElem?_eq_getElem hi
    obtain ⟨keep, next, new, ht⟩ := turnover_at hn hm
    rcases ht.fate hf with ⟨f', hf', hlives⟩ | ⟨hs, hflush⟩
    · exact Or.inl ⟨f', hf', _, hm, hlives⟩
    · exact Or.inr ⟨hs, _, hm, hflush⟩
  origin i hi f' hf' := origin_at hn (List.getElem?_eq_getElem hi) hf'
  settled i f hf hs j hij _ p hp := by
    obtain ⟨g, hg, he, rfl⟩ := (Ownership.mem_eligible _).1 hp
    cases hb : g.path == f.path with
    | false => rfl
    | true =>
      have hpath : g.path = f.path := (((ownership_after hn j).session g hg).beq_iff
        ((ownership_after hn i).session f hf)).1 hb
      have hgood := settled_at hn hf hs hij g hg hpath
      simp [Registry.isEligible, hgood] at he
  ordered := folders_ordered hn
  retried i f hf hs j hij _ hnone := by
    have hf := left_over_at hn hf hs hij hnone
    refine (Ownership.mem_eligible _).2 ⟨f, hf, ?_, rfl⟩
    simp [Registry.isEligible, hs, idle_of_left_over hn hf hs]

/-- In the sample the flush takes the folder of the session. -/
theorem folders_live_sample : sample.final.starts ≤ UInt64.size ∧
    (⟨⟨["rec", "voice0"]⟩, .recording⟩ : Folder) ∈ sample.folders 5 ∧
    ∃ f' ∈ sample.folders 6, sample.LivesAt 5 ⟨⟨["rec", "voice0"]⟩, .recording⟩ f' := by
  have hn : sample.final.starts ≤ UInt64.size := Nat.le_trans sample.starts_final_le (by decide)
  have hlen : 5 < sample.steps.length := by
    have hsteps : sample.steps.length = 18 := by cbv
    omega
  have hf : (⟨⟨["rec", "voice0"]⟩, .recording⟩ : Folder) ∈ sample.folders 5 := by
    rw [show sample.folders 5 = [⟨⟨["rec", "voice0"]⟩, .recording⟩] by cbv]
    exact List.mem_singleton_self _
  rcases (sample.folders_live hn).fate 5 hlen _ hf with hlives | ⟨hs, -⟩
  · exact ⟨hn, hf, hlives⟩
  · cases hs

end History

end PushToTalk
