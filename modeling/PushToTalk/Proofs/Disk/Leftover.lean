import PushToTalk.Proofs.Disk.Entry
import PushToTalk.Proofs.Disk.Root

/-
  What is left in a session folder.

  A job that is done with a folder keeps it as long as something is left: an entry of its directory,
  or something that cannot be looked into.  The verdict is final in the sense that the folder can be
  judged again at any time: as long as nobody touches the folder itself, that gives the same verdict
  and changes nothing.  It is this that makes flushing come to an end, since a flush which finds
  nothing to deliver judges the same folders over again.

  1. **The verdict** — a folder is kept exactly if something is left of it (`Placed.settle_iff`).
     Judged again it gets the same verdict, right away (`Placed.settle_again`) and after whatever
     happened to other folders (`Placed.settle_elsewhere`).

  2. **Many folders** — the folders that a job is done with rest from then on, and so do those that
     rested before (`Placed.finish_rests`).  Where all have something left, the disk does not change
     (`finish_of_leftover`).

  3. **Recordings** — they are never added by anyone who is done with folders or deletes files.

  All this is said of roots that place the session folders (`Placed`): elsewhere the removal of one
  folder can make another count as gone.

  Main statements: `Placed.settle_iff`, `Placed.finish_rests` and `finish_of_leftover`.
-/

namespace PushToTalk

open PushToTalk.Path (IsPlain)

/-- Judging the folder would change nothing. -/
def Folder.Rests (f : Folder) (d : Disk) : Prop := d.settle f.path = (d, f.state)

namespace Disk

/-- Something is left of a folder: its directory has an entry, or the path leads to something else
that cannot be looked into. -/
def Leftover (d : Disk) (folder : Path) : Prop :=
  (∃ entries, d.list folder = .ok entries ∧ entries ≠ []) ∨
    ∃ trouble, d.list folder = .error trouble ∧ trouble ≠ .notFound

/-- The root leads nowhere, or past all session folders to the directory that they are in. -/
def Placed (root : Path) (d : Disk) : Prop := Unled root d ∨ ∃ base, Rooted root base d

variable {root : Path} {base : Place} {d d' d₀ : Disk} {m n : Nat} {p : Path} {s : FolderState}

/-- Whoever keeps to one session folder leaves the root in order. -/
theorem KeepsTo.placed (hk : KeepsTo root n d d') (h : Placed root d) : Placed root d' := by
  rcases h with hu | ⟨base, hr⟩
  · exact Or.inl (hk.unled hu ▸ hu)
  · exact Or.inr ⟨base, (hk.rooted base hr).1⟩

/-! ## The verdict on a folder -/

/-- A folder with something left stays, whoever judges it. -/
theorem settle_of_leftover (h : d.Leftover p) : d.settle p = (d, .finishedUnsuccessfully) := by
  unfold Disk.settle isEmptyDirectory
  rcases h with ⟨entries, hl, hne⟩ | ⟨trouble, hl, hne⟩
  · rw [hl]
    cases entries with
    | nil => exact absurd rfl hne
    | cons e later => rfl
  · rw [hl]
    cases trouble <;> first | rfl | exact absurd rfl hne

/-- Where the root leads nowhere, looking for a folder and removing it fail for the same reason. -/
theorem Unled.stuck_session (h : Unled root d) (n : Nat) : ∃ trouble,
    d.list (sessionFolder root n) = .error trouble ∧
      d.removeDirectory (sessionFolder root n) = .error trouble := by
  obtain ⟨trouble, hw⟩ := h.stuck
  exact ⟨trouble, list_of_error (by rw [pieces_session]; exact hw true _ (by simp)),
    removeDirectory_of_error (by rw [pieces_session]; exact hw false _ (by simp))⟩

/-- Where the root leads nowhere, a folder is kept because it cannot be looked into. -/
theorem Unled.leftover (h : Unled root d)
    (hs : (d.settle (sessionFolder root n)).2 = .finishedUnsuccessfully) :
    d.Leftover (sessionFolder root n) := by
  obtain ⟨trouble, hlist, hremove⟩ := h.stuck_session n
  refine Or.inr ⟨trouble, hlist, ?_⟩
  rintro rfl
  unfold Disk.settle isEmptyDirectory removeIfThere at hs
  rw [hlist, hremove] at hs
  cases hs

/-- Where the root leads past the folders, a folder is kept for an entry, or because something
else stands in its place. -/
theorem Rooted.leftover (h : Rooted root base d)
    (hs : (d.settle (sessionFolder root n)).2 = .finishedUnsuccessfully) :
    d.Leftover (sessionFolder root n) := by
  rw [h.settle] at hs
  have hlist := list_of_walk (h.reached.walk_session true n)
  cases ha : d.at? (base ++ [sessionName n]) with
  | none =>
    rw [ha] at hs
    cases hs
  | some node =>
    rw [ha] at hlist
    cases node with
    | directory =>
      refine Or.inl ⟨_, hlist, fun he => ?_⟩
      have hempty := List.isEmpty_iff.2 (List.map_eq_nil_iff.1 he)
      simp only [ha, hempty, if_true] at hs
      cases hs
    | file bytes => exact Or.inr ⟨_, hlist, Trouble.noConfusion⟩
    | link target => exact Or.inr ⟨_, hlist, Trouble.noConfusion⟩

/-- A folder is kept exactly if something is left of it. -/
theorem Placed.settle_iff (h : Placed root d) (n : Nat) :
    (d.settle (sessionFolder root n)).2 = .finishedUnsuccessfully ↔
      d.Leftover (sessionFolder root n) := by
  constructor
  · intro hs
    rcases h with hu | ⟨base, hr⟩
    · exact hu.leftover hs
    · exact hr.leftover hs
  · intro hl
    rw [settle_of_leftover hl]

/-- A folder that is finished for good is gone. -/
theorem Rooted.settle_gone (h : Rooted root base d)
    (hs : (d.settle (sessionFolder root n)).2 = .finishedSuccessfully) :
    (d.settle (sessionFolder root n)).1.at? (base ++ [sessionName n]) = none := by
  rw [h.settle] at hs ⊢
  cases ha : d.at? (base ++ [sessionName n]) with
  | none => exact ha
  | some node =>
    rw [ha] at hs
    cases node with
    | directory =>
      dsimp only at hs ⊢
      split at hs
      · next he =>
        rw [if_pos he]
        exact (at?_clear _ _ _ _).trans (if_pos rfl)
      · cases hs
    | file bytes => cases hs
    | link target => cases hs

/-- Whoever judges a folder again finds it as it was left. -/
theorem Placed.settle_again (h : Placed root d) (n : Nat) :
    (d.settle (sessionFolder root n)).1.settle (sessionFolder root n) =
      d.settle (sessionFolder root n) := by
  rcases h with hu | ⟨base, hr⟩
  · rw [(keepsTo_settle root n d).unled hu]
  have hr' := ((keepsTo_settle root n d).rooted base hr).1
  rw [hr.settle] at hr' ⊢
  cases ha : d.at? (base ++ [sessionName n]) with
  | none => simp only [hr.settle, ha]
  | some node =>
    cases node with
    | directory =>
      simp only [ha] at hr' ⊢
      by_cases he : (d.entriesAt (base ++ [sessionName n])).isEmpty = true
      · rw [if_pos he] at hr' ⊢
        rw [hr'.settle, at?_clear, if_pos rfl]
      · rw [if_neg he]
        simp only [hr.settle, ha, if_neg he]
    | file bytes => simp only [hr.settle, ha]
    | link target => simp only [hr.settle, ha]

/-- What stands in the place of another session folder stays as it is. -/
theorem ChangesOnly.session (h : ChangesOnly base n d d') (hne : m ≠ n) :
    d'.at? (base ++ [sessionName m]) = d.at? (base ++ [sessionName m]) :=
  h _ (not_prefix_session base hne [])

/-- The verdict on a folder stands whatever happens to the others. -/
theorem Placed.settle_elsewhere (h : Placed root d) (hk : KeepsTo root n d d') (hne : m ≠ n)
    (hs : d.settle (sessionFolder root m) = (d, s)) :
    d'.settle (sessionFolder root m) = (d', s) := by
  rcases h with hu | ⟨base, hr⟩
  · rw [hk.unled hu]
    exact hs
  obtain ⟨hr', hc⟩ := hk.rooted base hr
  have hplace := hc.session hne
  have hentries : (d'.entriesAt (base ++ [sessionName m])).isEmpty =
      (d.entriesAt (base ++ [sessionName m])).isEmpty := by
    rw [Bool.eq_iff_iff, entriesAt_isEmpty_iff hr'.tree, entriesAt_isEmpty_iff hr.tree]
    simp only [hc.entry hne]
  rw [hr.settle] at hs
  rw [hr'.settle, hplace, hentries]
  cases ha : d.at? (base ++ [sessionName m]) with
  | none =>
    simp only [ha] at hs
    rw [(Prod.mk.inj hs).2]
  | some node =>
    cases node with
    | directory =>
      simp only [ha] at hs ⊢
      by_cases he : (d.entriesAt (base ++ [sessionName m])).isEmpty = true
      · -- the directory would be gone after the verdict
        rw [if_pos he] at hs
        have hgone := congrArg (fun d : Disk => d.at? (base ++ [sessionName m]))
          (Prod.mk.inj hs).1
        simp only [at?_clear, if_true, ha] at hgone
        cases hgone
      · rw [if_neg he] at hs ⊢
        rw [(Prod.mk.inj hs).2]
    | file bytes =>
      simp only [ha] at hs
      rw [(Prod.mk.inj hs).2]
    | link target =>
      simp only [ha] at hs
      rw [(Prod.mk.inj hs).2]

/-! ## Being done with many folders -/

/-- A folder that a job is done with rests, and so do those that rested before. -/
theorem Placed.finishOne_rests (h : Placed root d) {reg : Registry} (hd : reg.Distinct)
    (hs : ∀ f ∈ reg.folders, ∃ m, f.path = sessionFolder root m) {P : Path → Prop}
    (hrest : ∀ f ∈ reg.folders, P f.path → f.Rests d) (n : Nat) :
    ∀ f ∈ (Registry.finishOne (d, reg) (sessionFolder root n)).2.folders,
      P f.path ∨ f.path = sessionFolder root n →
        f.Rests (Registry.finishOne (d, reg) (sessionFolder root n)).1 := by
  simp only [Registry.finishOne]
  split
  · intro f' hf' hdone
    rw [Registry.setState_folders hd] at hf'
    obtain ⟨f, hf, rfl⟩ := List.mem_map.1 hf'
    obtain ⟨m, hm⟩ := hs f hf
    -- the folder that is named is settled now, and any other is settled as before
    by_cases hmn : m = n
    · subst hmn
      rw [hm, Path.beq_refl, if_pos rfl]
      exact h.settle_again m
    · have hne : (f.path == sessionFolder root n) = false := by
        rw [hm, ← Bool.not_eq_true]
        exact fun hb => hmn (sessionFolder_beq.1 hb)
      rw [hne, if_neg Bool.noConfusion] at hdone ⊢
      have hold : f.Rests d := by
        rcases hdone with hdone | he
        · exact hrest f hf hdone
        · rw [he, Path.beq_refl] at hne
          cases hne
      unfold Folder.Rests at hold ⊢
      rw [hm] at hold ⊢
      exact h.settle_elsewhere (keepsTo_settle root n d) hmn hold
  · next hnone =>
    intro f hf hdone
    rcases hdone with hdone | he
    · exact hrest f hf hdone
    · refine absurd ?_ hnone
      unfold Registry.stateOf?
      rw [Option.isSome_map, List.find?_isSome]
      exact ⟨f, hf, by rw [he]; exact Path.beq_refl _⟩

/-- The folders that a job is done with rest from then on. -/
theorem Placed.finish_rests (h : Placed root d) {reg : Registry} (hd : reg.Distinct)
    (hs : ∀ f ∈ reg.folders, ∃ m, f.path = sessionFolder root m) {paths : List Path}
    (hp : ∀ q ∈ paths, ∃ m, q = sessionFolder root m) {P : Path → Prop}
    (hrest : ∀ f ∈ reg.folders, P f.path → f.Rests d) :
    ∀ f ∈ (Registry.finish d reg paths).2.folders, P f.path ∨ f.path ∈ paths →
      f.Rests (Registry.finish d reg paths).1 := by
  -- one folder after the other; those that are judged already are taken along in `P`
  induction paths generalizing d reg P with
  | nil =>
    intro f hf hdone
    exact hrest f hf (hdone.resolve_right List.not_mem_nil)
  | cons q later ih =>
    obtain ⟨n, rfl⟩ := hp q List.mem_cons_self
    obtain ⟨hd', hs'⟩ := Registry.finishOne_paths (P := fun p => ∃ k, p = sessionFolder root k) d hd
      (sessionFolder root n) hs
    intro f hf hdone
    refine ih (P := fun p => P p ∨ p = sessionFolder root n)
      ((keepsTo_finishOne root n d reg).placed h) hd' hs'
      (fun q' hq' => hp q' (List.mem_cons_of_mem _ hq'))
      (h.finishOne_rests hd hs hrest n) f hf ?_
    rcases hdone with hdone | hmem
    · exact Or.inl (Or.inl hdone)
    · rcases List.mem_cons.1 hmem with he | hmem
      · exact Or.inl (Or.inr he)
      · exact Or.inr hmem

/-- Whoever is done with folders that all have something left changes nothing on the disk. -/
theorem finish_of_leftover {reg : Registry} {paths : List Path}
    (h : ∀ q ∈ paths, d.Leftover q) : (Registry.finish d reg paths).1 = d := by
  induction paths generalizing reg with
  | nil => rfl
  | cons q later ih =>
    have hfirst : (Registry.finishOne (d, reg) q).1 = d := by
      unfold Registry.finishOne
      dsimp only
      split
      · rw [settle_of_leftover (h q List.mem_cons_self)]
      · rfl
    show (Registry.finish (Registry.finishOne (d, reg) q).1 _ later).1 = d
    rw [hfirst]
    exact ih fun q' hq' => h q' (List.mem_cons_of_mem _ hq')

/-! ## The recordings in a folder -/

/-- The recordings in a session folder are the plain files there that end in `.wav`. -/
theorem Rooted.mem_recordingsIn (h : Rooted root base d) :
    p ∈ d.recordingsIn (sessionFolder root n) ↔ ∃ name bytes, IsPlain name ∧
      p = (sessionFolder root n).child name ∧
      d.at? (base ++ [sessionName n] ++ [name]) = some (.file bytes) ∧
      p.extension? = some "wav" := by
  constructor
  · exact h.recording_spec
  · rintro ⟨name, bytes, -, rfl, ha, hext⟩
    have hlist := list_of_walk (h.reached.walk_session true n)
    rw [h.tree.parent _ _ _ ha] at hlist
    have hmem : (name, Kind.file) ∈
        (d.entriesAt (base ++ [sessionName n])).map fun e => (e.1, e.2.kind) :=
      List.mem_map.2 ⟨(name, .file bytes), (mem_entriesAt_iff h.tree).2 ha, rfl⟩
    unfold recordingsIn
    rw [hlist]
    refine List.mem_filter.2 ⟨List.mem_map.2 ⟨(name, .file), ?_, rfl⟩, by simpa using hext⟩
    exact List.mem_filter.2 ⟨hmem, rfl⟩

/-- Where nothing can be listed there are no recordings. -/
theorem recordingsIn_of_unlisted (h : ∀ entries, d.list p ≠ .ok entries) :
    d.recordingsIn p = [] := by
  unfold recordingsIn
  split
  · next entries hl => exact absurd hl (h entries)
  · rfl

/-- Where the root leads nowhere, no session folder can be listed. -/
theorem Unled.list_ne_ok (h : Unled root d) (n : Nat) (entries : List (String × Kind)) :
    d.list (sessionFolder root n) ≠ .ok entries := by
  obtain ⟨trouble, hw⟩ := h.walk_session true n
  rw [list_of_error hw]
  exact fun e => by cases e

/-- Only a directory can be listed. -/
theorem Rooted.list_ne_ok (h : Rooted root base d)
    (hd : d.at? (base ++ [sessionName n]) ≠ some .directory) (entries : List (String × Kind)) :
    d.list (sessionFolder root n) ≠ .ok entries := by
  rw [list_of_walk (h.reached.walk_session true n)]
  split
  · exact fun e => by cases e
  · next ha => exact absurd ha hd
  · exact fun e => by cases e

/-- Where no file was added, no recording was. -/
theorem Rooted.recordings_mono (h : Rooted root base d) (h' : Rooted root base d')
    (hsub : ∀ name bytes, d'.at? (base ++ [sessionName n] ++ [name]) = some (.file bytes) →
      d.at? (base ++ [sessionName n] ++ [name]) = some (.file bytes))
    (hp : p ∈ d'.recordingsIn (sessionFolder root n)) :
    p ∈ d.recordingsIn (sessionFolder root n) := by
  obtain ⟨name, bytes, hname, he, ha, hext⟩ := h'.mem_recordingsIn.1 hp
  exact h.mem_recordingsIn.2 ⟨name, bytes, hname, he, hsub name bytes ha, hext⟩

/-- Whatever happens to another folder, no recording is added. -/
theorem Placed.recordings_elsewhere (h : Placed root d) (hk : KeepsTo root n d d') (hne : m ≠ n)
    (hp : p ∈ d'.recordingsIn (sessionFolder root m)) :
    p ∈ d.recordingsIn (sessionFolder root m) := by
  rcases h with hu | ⟨base, hr⟩
  · rwa [hk.unled hu] at hp
  · obtain ⟨hr', hc⟩ := hk.rooted base hr
    exact hr.recordings_mono hr' (fun name bytes ha => by rwa [hc.entry hne] at ha) hp

/-- Judging a folder adds no recording anywhere. -/
theorem Placed.recordings_settle (h : Placed root d)
    (hp : p ∈ (d.settle (sessionFolder root n)).1.recordingsIn (sessionFolder root m)) :
    p ∈ d.recordingsIn (sessionFolder root m) := by
  by_cases hne : m = n
  swap
  · exact h.recordings_elsewhere (keepsTo_settle root n d) hne hp
  subst hne
  rcases h with hu | ⟨base, hr⟩
  · rwa [(keepsTo_settle root m d).unled hu] at hp
  refine hr.recordings_mono ((keepsTo_settle root m d).rooted base hr).1
    (fun name bytes ha => ?_) hp
  rw [hr.settle] at ha
  split at ha
  · exact ha
  · split at ha
    · rw [at?_clear, if_neg (by simp)] at ha
      exact ha
    · exact ha
  · exact ha

/-- Nobody who is done with session folders adds a recording. -/
theorem Placed.recordings_finish (h : Placed root d) {reg : Registry} {paths : List Path}
    (hpaths : ∀ q ∈ paths, ∃ m, q = sessionFolder root m)
    (hp : p ∈ (Registry.finish d reg paths).1.recordingsIn (sessionFolder root m)) :
    p ∈ d.recordingsIn (sessionFolder root m) := by
  induction paths generalizing d reg with
  | nil => exact hp
  | cons q later ih =>
    obtain ⟨n, rfl⟩ := hpaths q List.mem_cons_self
    have hfirst := ih ((keepsTo_finishOne root n d reg).placed h)
      (fun q' hq' => hpaths q' (List.mem_cons_of_mem _ hq')) hp
    simp only [Registry.finishOne] at hfirst
    split at hfirst
    · exact h.recordings_settle hfirst
    · exact hfirst

/-- A recording that is deleted is gone, and no other is added. -/
theorem Placed.recordings_delete {s : Station} (h : Placed root s.disk) {name : String}
    (hname : IsPlain name)
    (hp : p ∈ (s.delete ((sessionFolder root n).child name)).disk.recordingsIn
      (sessionFolder root m)) :
    p ∈ s.disk.recordingsIn (sessionFolder root m) ∧
      p ≠ (sessionFolder root n).child name := by
  have hk : KeepsTo root n s.disk (s.delete ((sessionFolder root n).child name)).disk :=
    keepsTo_delete s hname
  rcases h with hu | ⟨base, hr⟩
  · rw [hk.unled hu, recordingsIn_of_unlisted (hu.list_ne_ok m)] at hp
    cases hp
  have hr' := (hk.rooted base hr).1
  obtain ⟨other, bytes, hother, he, ha, hext⟩ := hr'.mem_recordingsIn.1 hp
  unfold Station.delete at ha
  cases hrem : s.disk.removeFile ((sessionFolder root n).child name) with
  | ok disk =>
    obtain ⟨-, rfl, -⟩ := hr.reached.removeFile_eq_ok hname hrem
    simp only [hrem, at?_clear] at ha
    split at ha
    · cases ha
    next hplace =>
    refine ⟨hr.mem_recordingsIn.2 ⟨other, bytes, hother, he, ha, hext⟩, ?_⟩
    rintro rfl
    obtain ⟨hb, rfl⟩ := (Path.child_beq_child hname hother).1 (by rw [he]; exact Path.beq_refl _)
    obtain rfl := sessionFolder_beq.1 hb
    exact hplace rfl
  | error trouble =>
    simp only [hrem] at ha
    refine ⟨hr.mem_recordingsIn.2 ⟨other, bytes, hother, he, ha, hext⟩, ?_⟩
    -- a file that stands there could have been removed
    rintro rfl
    obtain ⟨hb, rfl⟩ := (Path.child_beq_child hname hother).1 (by rw [he]; exact Path.beq_refl _)
    obtain rfl := sessionFolder_beq.1 hb
    rw [removeFile_of_walk (hr.reached.walk_entry false (hr.tree.parent _ _ _ ha) hname
      fun hf => by cases hf), ha] at hrem
    cases hrem

end Disk

end PushToTalk
