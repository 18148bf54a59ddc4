import PushToTalk.Proofs.Disk.Leftover
import PushToTalk.Proofs.Relay.Recording

/-
  Folders that were given up.

  A session folder may leave the registry or be marked as finished for good.  From then on no flush
  looks into it, so whatever is recorded there would be lost without a trace.  Here it is shown that
  nothing can be: such a folder is not on the disk any more, and it never comes back, since only the
  start of its own session could make it.  So a folder with anything in it is one that a flush can
  still take (`Tidy.listed_of_entries`), which is what `Relay.Recording` and `Relay.Completion` rest
  on.

  1. **`Cleared`, `Swept`** — of the session folders so far, those on the disk are registered and
     not given up.  A job that is done keeps this, as a folder is given up only when it was removed
     (`Swept.finishOne`).

  2. **Starts** — there is one case to look at closely.  As long as there is no way to the
     recordings every folder counts as gone, and the way may be made later.  But the start that
     makes the way would have made it for each earlier session as well, had nothing been standing in
     the place of that session's folder; so no earlier session has a folder there (`Swept.start`).

  3. **Runs** — `Tidy` is kept by every move (`upholds_tidy`), by the cases that `Upholds` lists.

  The root has to suit the disk (`Suits`): below a root that leads through one of its own session
  folders a folder may well come back.

  Main statements: `tidy_run` and `Tidy.listed_of_entries`.
-/

namespace PushToTalk

open Upload (Job JobId Queue Worker)
open Disk (Rooted Unled Suits Listed Placed)

namespace Disk

variable {root : Path} {base : Place} {d d' d₀ : Disk} {m n : Nat} {reg reg' : Registry}

/-- Of the first `n` session folders below `base`, those that are on the disk are registered, and
not given up. -/
def Cleared (root : Path) (base : Place) (n : Nat) (reg : Registry) (d : Disk) : Prop :=
  ∀ k < n, Listed root k reg ∨ d.at? (base ++ [sessionName k]) ≠ some .directory

/-- There is a way to the recordings, and the folders that were given up are gone; or there is none
yet, and none of the first `n` sessions could make one. -/
def Swept (root : Path) (d₀ : Disk) (n : Nat) (reg : Registry) (d : Disk) : Prop :=
  (d = d₀ ∧ Unled root d₀ ∧ ∀ k < n, ∀ d', d₀.makeDirectories (sessionFolder root k) ≠ .ok d') ∨
    ∃ base, Rooted root base d ∧ Cleared root base n reg d

/-- Where the folders are accounted for, the recordings have a place, or there is no way to them. -/
theorem Swept.placed (h : Swept root d₀ n reg d) : Placed root d := by
  rcases h with ⟨rfl, hu, -⟩ | ⟨base, hr, -⟩
  · exact Or.inl hu
  · exact Or.inr ⟨base, hr⟩

/-- A change of one session folder, and of the registry, that gives up no folder that is there. -/
theorem Swept.next (h : Swept root d₀ n reg d) (hk : KeepsTo root m d d')
    (hlisted : ∀ k, k ≠ m → Listed root k reg → Listed root k reg')
    (hown : ∀ base, Rooted root base d → m < n →
      Listed root m reg ∨ d.at? (base ++ [sessionName m]) ≠ some .directory →
      Listed root m reg' ∨ d'.at? (base ++ [sessionName m]) ≠ some .directory) :
    Swept root d₀ n reg' d' := by
  rcases h with ⟨rfl, hu, hmade⟩ | ⟨base, hr, hc⟩
  · exact Or.inl ⟨hk.unled hu, hu, hmade⟩
  obtain ⟨hr', hchanges⟩ := hk.rooted base hr
  refine Or.inr ⟨base, hr', fun k hkn => ?_⟩
  -- the folder that changes is in the hands of `hown`; of all others only the registry may have
  -- changed
  by_cases hkm : k = m
  · subst hkm
    exact hown base hr hkn (hc k hkn)
  · rw [hchanges.session hkm]
    exact (hc k hkn).imp_left (hlisted k hkm)

/-- The registry may change as long as no folder is given up. -/
theorem Swept.relist (h : Swept root d₀ n reg d)
    (hlisted : ∀ k, Listed root k reg → Listed root k reg') : Swept root d₀ n reg' d :=
  h.next (KeepsTo.refl root 0 d) (fun k _ => hlisted k) fun _ _ _ hc => hc.imp_left (hlisted 0)

/-! ## Being done with folders -/

/-- A job that is done gives a folder up only when it is gone. -/
theorem Swept.finishOne (h : Swept root d₀ n reg d) (hd : reg.Distinct)
    (hs : ∀ f ∈ reg.folders, ∃ k, f.path = sessionFolder root k) (m : Nat) :
    Swept root d₀ n (Registry.finishOne (d, reg) (sessionFolder root m)).2
      (Registry.finishOne (d, reg) (sessionFolder root m)).1 := by
  simp only [Registry.finishOne]
  split
  swap
  · exact h
  next hsome =>
  have hfolders := Registry.setState_folders hd (sessionFolder root m)
    (d.settle (sessionFolder root m)).2
  refine h.next (keepsTo_settle root m d) (fun k hk hl => ?_) fun base hr _ _ => ?_
  · obtain ⟨f, hf, hpath, hstate⟩ := hl
    unfold Listed
    rw [hfolders]
    refine ⟨_, List.mem_map_of_mem hf, ?_⟩
    rw [hpath, if_neg fun hb => hk (sessionFolder_beq.1 hb)]
    exact ⟨hpath, hstate⟩
  · -- finished well means that the directory is gone; otherwise the folder stays listed
    rcases Registry.settle_isFinished d (sessionFolder root m) with hgood | hleft
    · right
      rw [hr.settle_gone hgood]
      exact fun e => by cases e
    · left
      unfold Registry.stateOf? at hsome
      rw [Option.isSome_map, List.find?_isSome] at hsome
      obtain ⟨f, hf, hb⟩ := hsome
      obtain ⟨k, hk⟩ := hs f hf
      obtain rfl : k = m := by
        rw [hk] at hb
        exact sessionFolder_beq.1 hb
      unfold Listed
      rw [hfolders, hleft]
      refine ⟨_, List.mem_map_of_mem hf, ?_⟩
      rw [if_pos hb]
      exact ⟨hk, FolderState.noConfusion⟩

/-- What holds of one folder that is finished holds of all folders of a job, one after the other. -/
theorem Swept.finish (h : Swept root d₀ n reg d) (hd : reg.Distinct)
    (hs : ∀ f ∈ reg.folders, ∃ k, f.path = sessionFolder root k) {paths : List Path}
    (hp : ∀ q ∈ paths, ∃ k, q = sessionFolder root k) :
    Swept root d₀ n (Registry.finish d reg paths).2 (Registry.finish d reg paths).1 := by
  induction paths generalizing d reg with
  | nil => exact h
  | cons q later ih =>
    obtain ⟨m, rfl⟩ := hp q List.mem_cons_self
    obtain ⟨hd', hs'⟩ := Registry.finishOne_paths (P := fun p => ∃ k, p = sessionFolder root k) d hd
      (sessionFolder root m) hs
    exact ih (h.finishOne hd hs m) hd' hs' fun q' hq' => hp q' (List.mem_cons_of_mem _ hq')

/-! ## Starting a session -/

/-- Nobody makes a directory by writing a file. -/
theorem directory_of_write {p : Path} {bytes : Bytes} (hw : d.write p bytes = .ok d') {v : Place}
    (hv : d'.at? v = some .directory) : d.at? v = some .directory := by
  cases hwalk : d.walk true linkLimit [] p.pieces with
  | error trouble =>
    rw [write_of_error hwalk] at hw
    cases hw
  | ok place =>
    rw [write_of_walk hwalk] at hw
    split at hw
    · cases hw
    next hnot =>
    obtain rfl := Except.ok.inj hw
    rcases List.eq_nil_or_concat place with rfl | ⟨above, name, rfl⟩
    · exact absurd (at?_nil d) hnot
    · rw [List.concat_eq_append, at?_set] at hv
      split at hv
      · cases hv
      · exact hv

/-- A recorder that leaves files behind makes no directory either. -/
theorem directory_of_drops (folder : Path) (names : List String) {v : Place}
    (hv : (names.foldl (Recorder.drop folder) d).at? v = some .directory) :
    d.at? v = some .directory := by
  induction names generalizing d with
  | nil => exact hv
  | cons name later ih =>
    have hdrop := ih hv
    unfold Recorder.drop at hdrop
    split at hdrop
    · next hw => exact directory_of_write hw hdrop
    · exact hdrop

/-- The start of a session registers its folder.  If it makes the way to the recordings, no earlier
session has a folder there. -/
theorem Swept.start (h : Swept root d₀ n reg d) (hs : Suits root d₀) (r : Recorder) :
    Swept root d₀ (n + 1) (reg.beginRecording (sessionFolder root n))
      (r.onDisk (d.prepare (sessionFolder root n)) (.start (sessionFolder root n))) := by
  have hnew : Listed root n (reg.beginRecording (sessionFolder root n)) :=
    ⟨_, List.mem_append_right _ (List.mem_singleton_self _), rfl, FolderState.noConfusion⟩
  rcases h with ⟨rfl, hu, hmade⟩ | ⟨base, hr, hc⟩
  swap
  · obtain ⟨hr', hchanges⟩ := rooted_start hr r n
    refine Or.inr ⟨base, hr', fun k hk => ?_⟩
    by_cases hkn : k = n
    · exact Or.inl (hkn ▸ hnew)
    · rw [hchanges.session hkn]
      exact (hc k (by omega)).imp_left fun hl => Relay.listed_beginRecording hl _
  rw [hu.prepare n]
  unfold Recorder.onDisk
  dsimp only
  -- no way so far: either this start makes one, or it leaves the disk as it is
  cases hm : d.makeDirectories (sessionFolder root n) with
  | error trouble =>
    dsimp only
    rw [drops_of_error fun name => hu.walk_entry true n name]
    refine Or.inl ⟨rfl, hu, fun k hk d' hd' => ?_⟩
    by_cases hkn : k = n
    · rw [hkn, hm] at hd'
      cases hd'
    · exact hmade k (by omega) d' hd'
  | ok d₂ =>
    dsimp only
    have hm' := hm
    unfold makeDirectories at hm'
    rw [pieces_session] at hm'
    obtain ⟨d₁, links, base, trail, hfront, htree, -, hl, hother⟩ :=
      makeAlong_front linkLimit 0 d [] root.front [sessionName n] (Nat.zero_le _) hs.tree hm'
    have hr : Rooted root base d₁ := hs.rooted hfront htree hl
    -- from the root on, all sessions make their folders on the same disk
    have hsame : ∀ k, d.makeDirectories (sessionFolder root k) =
        d₁.makeDirectories (sessionFolder root k) := by
      intro k
      unfold makeDirectories
      rw [pieces_session, makeAlong_of_leads hl (Nat.zero_le _), hother]
    rw [hsame n] at hm
    refine Or.inr ⟨base, (hr.makeDirectories_ok hm).drops _ _, fun k hk => ?_⟩
    by_cases hkn : k = n
    · exact Or.inl (hkn ▸ hnew)
    right
    intro hdir
    have hd₂ := directory_of_drops _ _ hdir
    -- a folder that was there before could have been made by its own session
    have hd₁ : d₁.at? (base ++ [sessionName k]) = some .directory := by
      rw [hr.makeDirectories n] at hm
      split at hm
      · obtain rfl := Except.ok.inj hm
        rwa [((hr.set_session n).2).session hkn] at hd₂
      · obtain rfl := Except.ok.inj hm
        exact hd₂
      · cases hm
    refine hmade k (by omega) d₁ ?_
    rw [hsame k, hr.makeDirectories k, hd₁]

end Disk

namespace Relay

variable {root : Path} {d₀ : Disk} {r r' : Relay}

/-- A relay that knows all session folders that are on the disk. -/
structure Tidy (root : Path) (d₀ : Disk) (r : Relay) : Prop where
  owned : r.Owned
  root_eq : r.options.root = root
  swept : r.starts ≤ UInt64.size →
    Disk.Swept root d₀ r.starts r.station.folders r.station.disk

/-- What is known of who owns which folder, of a tidy relay. -/
theorem Tidy.ownership (h : Tidy root d₀ r) (hn : r.starts ≤ UInt64.size) :
    Ownership root r.starts r.station.folders r.queue :=
  h.root_eq ▸ h.owned.ownership hn

/-- A step without a new session, if it keeps the folders accounted for. -/
theorem Tidy.congr (h : Tidy root d₀ r) (howned : r'.Owned) (ho : r'.options = r.options)
    (ht : r'.toggles = r.toggles)
    (hs : r.starts ≤ UInt64.size →
      Disk.Swept root d₀ r.starts r.station.folders r.station.disk →
      Disk.Swept root d₀ r.starts r'.station.folders r'.station.disk) : Tidy root d₀ r' := by
  refine ⟨howned, ho ▸ h.root_eq, fun hn => ?_⟩
  rw [starts_eq ht] at hn ⊢
  exact hs hn (h.swept hn)

/-- The start of a session, of which there is now one more. -/
theorem Tidy.startSession (h : Tidy root d₀ r) (hs : Suits root d₀) :
    Tidy root d₀ r.startSession := by
  refine ⟨h.owned.startSession, h.root_eq, fun hn => ?_⟩
  have hdisk := h.owned.startSession_disk hn
  rw [starts_startSession] at hn ⊢
  have hfolders : r.startSession.station.folders =
      r.station.folders.beginRecording (sessionFolder root r.starts) := by
    rw [← h.owned.next (by omega), ← h.root_eq]
    rfl
  rw [hdisk, hfolders, h.root_eq]
  exact (h.swept (by omega)).start hs r.recorder

/-- A flush gives nothing up, or, if the queue is closed, only what was finished at once. -/
theorem Tidy.flush (h : Tidy root d₀ r) : Tidy root d₀ r.flush.1 := by
  have howned := h.owned.flush
  rcases flush_cases r with ⟨queue, id, -, he⟩ | he
  · rw [he] at howned ⊢
    exact h.congr howned rfl rfl fun _ hs => hs.relist fun _ => listed_afterScan
  · rw [he] at howned ⊢
    refine h.congr howned rfl rfl fun hn hs => ?_
    have hown := h.ownership hn
    exact (hs.relist fun _ => listed_afterScan).finish
      (Ownership.distinct_afterScan hown.distinct)
      (fun f hf => (hown.session_afterScan f hf).exists_eq)
      (IsSession.paths fun p hp => (hown.eligible_spec hp).1)

/-- An entry is made in the active folder only, which nobody has given up. -/
theorem Tidy.record (h : Tidy root d₀ r) (name : String) (node : Disk.Node) :
    Tidy root d₀ (r.record name node) := by
  have howned := h.owned.record name node
  rcases record_cases r name node with he | ⟨folder, disk, ha, hm, he⟩
  · rwa [he]
  rw [he] at howned ⊢
  refine h.congr howned rfl rfl fun hn hs => ?_
  obtain ⟨⟨i, -, rfl⟩, ⟨f, hf, hpath, hstate⟩, -⟩ := (h.ownership hn).active folder ha
  -- what is recorded lies in the active folder, which is not given up
  exact hs.next (Disk.keepsTo_make hm) (fun _ _ hl => hl) fun _ _ _ _ =>
    Or.inl ⟨f, hf, hpath, by rw [hstate]; exact FolderState.noConfusion⟩

/-- A worker finishes the folders of its job, or deletes a file of one. -/
theorem Tidy.advance (h : Tidy root d₀ r) (id : JobId) : Tidy root d₀ (r.advance id) := by
  have howned := h.owned.advance id
  rcases advance_cases r id with he | ⟨w, s', w', hrun, hadv, he⟩
  · rwa [he]
  rw [he] at howned ⊢
  refine h.congr howned rfl rfl fun hn hs => ?_
  have hown := h.ownership hn
  show Disk.Swept root d₀ r.starts s'.folders s'.disk
  have hfinish : Disk.Swept root d₀ r.starts (r.station.finish w.folders).folders
      (r.station.finish w.folders).disk := by
    obtain ⟨job, ho, hserves, -⟩ := hown.job_of_running hrun
    rw [hserves.folders]
    exact hs.finish hown.distinct (fun f hf => (hown.session f hf).exists_eq)
      (IsSession.paths (hown.jobSession job (List.mem_of_getElem? ho.1)))
  rcases hadv.folders with ⟨-, rfl, -⟩ | ⟨-, hfolders⟩
  · exact hfinish
  rcases hadv.disk with hd | rfl | ⟨file, verdict, hstage, rfl⟩
  · rwa [hd, hfolders]
  · exact hfinish
  -- a deletion leaves every folder where it is
  obtain ⟨m, name, hname, rfl⟩ := file_of_running hown hrun (by rw [hstage]; rfl)
  rw [hfolders]
  refine hs.next (Disk.keepsTo_delete r.station hname) (fun _ _ hl => hl) fun base hr _ hc => ?_
  refine hc.imp_right fun hnot => ?_
  unfold Station.delete
  split
  · next disk hrem =>
    obtain ⟨-, rfl, -⟩ := hr.reached.removeFile_eq_ok hname hrem
    show (r.station.disk.clear (base ++ [sessionName m] ++ [name])).at? _ ≠ _
    rw [Disk.at?_clear, if_neg (by simp)]
    exact hnot
  · exact hnot

/-- Every move leaves a tidy relay tidy. -/
theorem upholds_tidy (hs : Suits root d₀) (m : Move) (r : Relay) :
    Upholds (Tidy root d₀) r m where
  quiet hq h := h.congr (h.owned.quiet hq) hq.options hq.toggles fun _ hs => by
    rwa [hq.folders, hq.disk]
  start h := h.startSession hs
  stop h := ⟨h.owned.endSession, h.root_eq, fun hn => by
    rw [starts_endSession] at hn ⊢
    exact h.swept hn⟩
  flush h := h.flush
  record _ h := h.record _ _
  dispatch _ h := by
    have howned := h.owned.dispatch
    rcases dispatch_cases r with he | ⟨queue, -, he⟩
    · rwa [he]
    · rw [he] at howned ⊢
      exact h.congr howned rfl rfl fun _ hs => hs
  advance _ h := h.advance _
  answer {id answer} _ h := by
    have howned := h.owned.answerWorker id answer
    rcases answerWorker_cases r id answer with
      he | ⟨w, s', w', request, file, -, -, -, hrec, he⟩
    · rwa [he]
    · rw [he] at howned ⊢
      refine h.congr howned rfl rfl fun _ hs => ?_
      show Disk.Swept root d₀ _ s'.folders s'.disk
      rwa [hrec.disk, hrec.folders.2]
  close _ h := ⟨⟨h.owned.numbered, fun hn => (h.owned.ownership hn).kill⟩, h.root_eq, h.swept⟩

/-- A relay is tidy in every state of a run. -/
theorem tidy_run {disk : Disk} {options : Options} (settings : Settings) (recorder : Recorder)
    (hs : Suits options.root disk) (moves : List Move) :
    Tidy options.root disk ((startOn disk options settings recorder).run moves) := by
  refine run_keeps (fun m _ => upholds_tidy hs m)
    ⟨owned_startOn disk options settings recorder, rfl, fun _ => ?_⟩
  rcases Disk.grounded_self hs with ⟨-, hu⟩ | ⟨base, hr⟩
  · exact Or.inl ⟨rfl, hu, fun k hk => absurd hk (Nat.not_lt_zero k)⟩
  · exact Or.inr ⟨base, hr, fun k hk => absurd hk (Nat.not_lt_zero k)⟩

/-- A session folder with anything in it is registered, and not given up. -/
theorem Tidy.listed_of_entries (h : Tidy root d₀ r) (hn : r.starts ≤ UInt64.size) {k : Nat}
    (hk : k < r.starts) {entries : List (String × Disk.Kind)}
    (hl : r.station.disk.list (sessionFolder root k) = .ok entries) :
    Listed root k r.station.folders := by
  rcases h.swept hn with ⟨he, hu, -⟩ | ⟨base, hr, hc⟩
  · rw [he] at hl
    exact absurd hl (hu.list_ne_ok k entries)
  · rcases hc k hk with hlisted | hnot
    · exact hlisted
    · exact absurd hl (hr.list_ne_ok hnot entries)

/-- Nothing is recorded in a folder that is finished for good. -/
theorem Tidy.recordingsIn_eq_nil (h : Tidy root d₀ r) (hn : r.starts ≤ UInt64.size) {f : Folder}
    (hf : f ∈ r.station.folders.folders) (hs : f.state = .finishedSuccessfully) :
    r.station.disk.recordingsIn f.path = [] := by
  have hown := h.ownership hn
  obtain ⟨k, hk, hpath⟩ := hown.session f hf
  rw [hpath]
  refine Disk.recordingsIn_of_unlisted fun entries hl => ?_
  obtain ⟨g, hg, hgp, hgs⟩ := h.listed_of_entries hn hk hl
  obtain rfl := hown.unique hg hf (hgp.trans hpath.symm)
  exact hgs hs

end Relay

end PushToTalk
