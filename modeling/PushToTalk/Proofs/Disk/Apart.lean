import PushToTalk.Proofs.Disk.Leftover
import PushToTalk.Proofs.Disk.Outcome

/-
  Session folders keep out of each other's way.

  A job that is done with folders judges them one after the other, and the removal of one may cut
  the way to the next.  `Disk.Outcome` says what comes of it if the folders keep out of each other's
  way, and it asks for that as a hypothesis.  For the session folders of a relay the hypothesis is
  met, and here it is shown to be.

  Where the root leads past the session folders, so does the way to each of them, and an empty one
  can always be removed.  Where the root leads nowhere, there is no directory that could be in
  anybody's way.  So a job that is done with session folders judges each of them by what was left in
  it when the job was done.

  1. **Ways that are put together** — the way along pieces that lead somewhere, and on from there
     (`way_of_leads`).

  2. **The way to a session folder** — it looks at what the root's way looks at, which is apart from
     all session folders, and at the folder itself (`Rooted.way_session`).

  3. **Both kinds of roots** (`Placed`) — registered session folders are `Separate`, and each of
     them is `Removable`: what counts as empty can be removed, and it is never the root of the disk.

  4. **What a job comes to** that is done with session folders (`Placed.finish_eq`), with one lemma
     for each kind of folder: left over, gone, or none of the job's.

  A root that leads through a session folder is neither kind; see `finish_cuts_way` for what can
  happen then.

  Main statements: `Placed.finish_kept`, `Placed.finish_gone` and `Placed.finish_other`.
-/

namespace PushToTalk

namespace Disk

variable {root : Path} {base goal place u v : Place} {d : Disk} {m n links links' : Nat}
  {pieces rest : List String} {trail : List Place}

/-- Whoever goes a way and then on looks at what the way looks at, and at what comes then. -/
theorem way_of_leads (h : Leads d links place pieces links' goal trail)
    (hu : u ∈ d.way links place (pieces ++ rest)) : u ∈ trail ∨ u ∈ d.way links' goal rest := by
  -- on the way along the first pieces; each step puts in front what it looks at
  induction h with
  | nil => exact Or.inr hu
  | idle hd hp _ ih =>
    rw [List.cons_append, way_idle hd hp] at hu
    exact (ih hu).imp_left (List.mem_cons_of_mem _)
  | up hd _ ih =>
    rw [List.cons_append, way_up hd] at hu
    exact (ih hu).imp_left (List.mem_cons_of_mem _)
  | down hd hp hn _ ih =>
    rw [List.cons_append, way_enter hd hp hn fun _ he => by cases he] at hu
    rcases List.mem_cons.1 hu with rfl | hu
    · exact Or.inl (List.mem_cons_of_mem _ List.mem_cons_self)
    · exact (ih hu).imp_left fun hm => List.mem_cons_of_mem _ (List.mem_cons_of_mem _ hm)
  | follow hd hp hn _ ih =>
    rw [List.cons_append, way_link hd hp hn, ← List.append_assoc] at hu
    rcases List.mem_cons.1 hu with rfl | hu
    · exact Or.inl (List.mem_cons_of_mem _ List.mem_cons_self)
    · exact (ih hu).imp_left fun hm => List.mem_cons_of_mem _ (List.mem_cons_of_mem _ hm)

/-- The way to a session folder comes past all others. -/
theorem Rooted.way_session (h : Rooted root base d)
    (hu : u ∈ d.way linkLimit [] (sessionFolder root n).pieces) :
    Apart base u ∨ u = base ++ [sessionName n] := by
  obtain ⟨links, trail, hleads, hapart⟩ := h.way
  rw [pieces_session] at hu
  rcases way_of_leads hleads hu with hm | hm
  · exact Or.inl (hapart u hm)
  · right
    rw [way_plain h.goal (isPlain_sessionName n)] at hm
    rcases List.mem_cons.1 hm with rfl | hm
    · rfl
    cases ha : d.at? (base ++ [sessionName n]) with
    | none =>
      rw [ha] at hm
      cases hm
    | some node =>
      cases node with
      | link target => exact absurd ha (h.noLink n target)
      | directory =>
        simp only [ha, way_nil] at hm
        cases hm
      | file bytes =>
        simp only [ha, way_nil] at hm
        cases hm

/-- If a session folder's path leads to a directory, that is the one of its name in the root. -/
theorem Rooted.directoryOf_session (h : Rooted root base d)
    (hv : d.directoryOf (sessionFolder root n) = .ok v) : v = base ++ [sessionName n] := by
  have hw : d.walk true linkLimit [] (sessionFolder root n).pieces = .ok v :=
    (directoryOf_eq_ok_iff.1 hv).1
  rw [h.reached.walk_session true n] at hw
  exact (Except.ok.inj hw).symm

/-- A session folder with an entry is a directory, and does not count as empty. -/
theorem Rooted.full_of_entry (h : Rooted root base d) {name : String} {node : Node}
    (ha : d.at? (base ++ [sessionName n] ++ [name]) = some node) :
    d.directoryOf (sessionFolder root n) = .ok (base ++ [sessionName n]) ∧
      d.isVacant (sessionFolder root n) = false := by
  have hdir : d.directoryOf (sessionFolder root n) = .ok (base ++ [sessionName n]) :=
    directoryOf_eq_ok_iff.2 ⟨h.reached.walk_session true n, h.tree.parent _ _ _ ha⟩
  refine ⟨hdir, ?_⟩
  rw [isVacant_of_ok hdir, ← Bool.not_eq_true, entriesAt_isEmpty_iff h.tree]
  intro hnone
  rw [hnone name] at ha
  cases ha

/-- What is listed in a session folder stands there. -/
theorem Rooted.exists_entry (h : Rooted root base d) {entries : List (String × Kind)}
    (hl : d.list (sessionFolder root n) = .ok entries) (hne : entries ≠ []) :
    ∃ name node, d.at? (base ++ [sessionName n] ++ [name]) = some node := by
  rw [list_of_walk (h.reached.walk_session true n)] at hl
  split at hl
  · cases hl
  · obtain rfl := Except.ok.inj hl
    obtain ⟨⟨name, node⟩, later, he⟩ :=
      List.exists_cons_of_ne_nil fun hnil => hne (List.map_eq_nil_iff.2 hnil)
    refine ⟨name, node, (mem_entriesAt_iff h.tree).1 ?_⟩
    rw [he]
    exact List.mem_cons_self
  · cases hl

/-- Where the root leads nowhere, no session folder's path leads to a directory. -/
theorem Unled.directoryOf_ne_ok (h : Unled root d) (n : Nat) (v : Place) :
    d.directoryOf (sessionFolder root n) ≠ .ok v := by
  intro hv
  obtain ⟨trouble, hw⟩ := h.walk_session true n
  have hok : d.walk true linkLimit [] (sessionFolder root n).pieces = .ok v :=
    (directoryOf_eq_ok_iff.1 hv).1
  rw [hw] at hok
  cases hok

/-- Registered session folders keep out of each other's way. -/
theorem Placed.separate (h : Placed root d) {reg : Registry} (hd : reg.Distinct)
    (hs : ∀ f ∈ reg.folders, ∃ k, f.path = sessionFolder root k) : reg.Separate d := by
  refine ⟨hd, fun f hf g hg hne v hv hm => ?_⟩
  obtain ⟨i, hi⟩ := hs f hf
  obtain ⟨j, hj⟩ := hs g hg
  rw [hi] at hm hne
  rw [hj] at hv hne
  rcases h with hu | ⟨base, hr⟩
  · exact hu.directoryOf_ne_ok j v hv
  obtain rfl := hr.directoryOf_session hv
  rcases List.mem_cons.1 hm with hnil | hm
  · exact absurd hnil (by simp)
  rcases hr.way_session hm with hapart | he
  · exact hapart j (List.prefix_refl _)
  · have hij := sessionName_injective (List.singleton_inj.1 (List.append_cancel_left he))
    rw [← Bool.not_eq_true] at hne
    exact hne (sessionFolder_beq.2 hij.symm)

/-- A session folder is an entry of the root of the recordings, so it is not the root of the
disk. -/
theorem Placed.directoryOf_ne_root (h : Placed root d) (n : Nat) :
    d.directoryOf (sessionFolder root n) ≠ .ok [] := by
  intro hv
  rcases h with hu | ⟨base, hr⟩
  · exact hu.directoryOf_ne_ok n [] hv
  · exact absurd (hr.directoryOf_session hv) (by simp)

/-- A session folder that counts as empty can be removed. -/
theorem Placed.removable (h : Placed root d) (n : Nat) : d.Removable (sessionFolder root n) := by
  intro hempty
  refine ⟨?_, h.directoryOf_ne_root n⟩
  unfold isEmptyDirectory at hempty
  unfold removeIfThere
  -- where the root leads nowhere, listing and removing get stuck in the same way
  rcases h with hu | ⟨base, hr⟩
  · obtain ⟨trouble, hlist, hremove⟩ := hu.stuck_session n
    rw [hlist] at hempty
    rw [hremove]
    cases trouble <;> first | rfl | cases hempty
  · rw [list_of_walk (hr.reached.walk_session true n)] at hempty
    rw [removeDirectory_of_walk (hr.reached.walk_session false n)]
    cases ha : d.at? (base ++ [sessionName n]) with
    | none => rfl
    | some node =>
      cases node with
      | file bytes =>
        rw [ha] at hempty
        cases hempty
      | link target =>
        rw [ha] at hempty
        cases hempty
      | directory =>
        simp only [ha, List.isEmpty_map, Except.ok.injEq] at hempty
        simp only [hempty, if_true]
        rfl

/-- The directory that a path leads to is as it was, with all that is in it. -/
structure Untouched (d d' : Disk) (p : Path) : Prop where
  list : d'.list p = d.list p
  below : ∀ v, d.directoryOf p = .ok v → ∀ u, v <+: u → d'.at? u = d.at? u

/-- Among session folders the paths name those that are spelled like them. -/
theorem isNamed_iff {f : Folder} {paths : List Path} (hf : ∃ k, f.path = sessionFolder root k)
    (hp : ∀ q ∈ paths, ∃ k, q = sessionFolder root k) :
    f.isNamed paths = true ↔ f.path ∈ paths := by
  unfold Folder.isNamed
  rw [List.any_eq_true]
  constructor
  · rintro ⟨q, hq, hb⟩
    obtain ⟨i, hi⟩ := hf
    obtain ⟨j, rfl⟩ := hp q hq
    rw [hi] at hb ⊢
    exact sessionFolder_beq.1 hb ▸ hq
  · exact fun hm => ⟨f.path, hm, Path.beq_refl _⟩

/-! ## Being done with session folders -/

/-- The root of the disk is none of the directories that go with session folders. -/
theorem Placed.nil_not_mem_emptied (h : Placed root d) {reg : Registry} {paths : List Path}
    (hp : ∀ q ∈ paths, ∃ k, q = sessionFolder root k) : [] ∉ reg.emptied d paths := by
  refine Registry.nil_not_mem_emptied fun q hq _ => ?_
  obtain ⟨k, rfl⟩ := hp q hq
  exact h.removable k

namespace Placed

variable {reg : Registry} {f : Folder} {paths : List Path} (h : Placed root d)
  (hd : reg.Distinct) (hs : ∀ f ∈ reg.folders, ∃ k, f.path = sessionFolder root k)
  (hp : ∀ q ∈ paths, ∃ k, q = sessionFolder root k)
include h hd hs hp

/-- A job that is done with session folders takes the directories of the empty ones away and gives
its verdicts. -/
theorem finish_eq : Registry.finish d reg paths =
    (d.without (reg.emptied d paths), ⟨reg.folders.map (Folder.judged d paths), reg.active⟩) := by
  refine (h.separate hd hs).finish_eq fun q hq _ => ?_
  obtain ⟨k, rfl⟩ := hp q hq
  exact h.removable k

/-- A folder of the job is judged by what was left in it. -/
theorem finish_verdict (hf : f ∈ reg.folders) (hm : f.path ∈ paths) :
    ⟨f.path, d.verdict f.path⟩ ∈ (Registry.finish d reg paths).2.folders := by
  rw [h.finish_eq hd hs hp]
  refine List.mem_map.2 ⟨f, hf, ?_⟩
  rw [Folder.judged, (isNamed_iff (hs f hf) hp).2 hm, if_pos rfl]

/-- One that still holds anything is left over, with all that is in it. -/
theorem finish_kept (hf : f ∈ reg.folders) (hm : f.path ∈ paths)
    (hv : d.isVacant f.path = false) :
    ⟨f.path, .finishedUnsuccessfully⟩ ∈ (Registry.finish d reg paths).2.folders ∧
      d.Untouched (Registry.finish d reg paths).1 f.path := by
  have hmem := h.finish_verdict hd hs hp hf hm
  rw [verdict, hv, if_neg Bool.false_ne_true] at hmem
  refine ⟨hmem, ?_⟩
  rw [h.finish_eq hd hs hp]
  have hsep := h.separate hd hs
  exact ⟨hsep.list_stays (h.nil_not_mem_emptied hp) hf fun _ => hv,
    fun v hdir u hu => hsep.stays hf (fun _ => hv) hdir hu⟩

/-- One that was empty or missing is finished for good, and there is no directory of it. -/
theorem finish_gone (hf : f ∈ reg.folders) (hm : f.path ∈ paths)
    (hv : d.isVacant f.path = true) :
    ⟨f.path, .finishedSuccessfully⟩ ∈ (Registry.finish d reg paths).2.folders ∧
      (Registry.finish d reg paths).1.list f.path = .error .notFound := by
  have hmem := h.finish_verdict hd hs hp hf hm
  rw [verdict, hv, if_pos rfl] at hmem
  refine ⟨hmem, ?_⟩
  rw [h.finish_eq hd hs hp]
  exact (h.separate hd hs).list_gone (h.nil_not_mem_emptied hp) hf
    ((isNamed_iff (hs f hf) hp).2 hm) hv

/-- A folder that is none of the job's is as it was. -/
theorem finish_other (hf : f ∈ reg.folders) (hnot : f.path ∉ paths) :
    f ∈ (Registry.finish d reg paths).2.folders ∧
      d.Untouched (Registry.finish d reg paths).1 f.path := by
  have hunnamed : f.isNamed paths = false := by
    rw [← Bool.not_eq_true, isNamed_iff (hs f hf) hp]
    exact hnot
  have hno : f.isNamed paths = true → d.isVacant f.path = false := by
    rw [hunnamed]
    exact fun he => by cases he
  rw [h.finish_eq hd hs hp]
  have hsep := h.separate hd hs
  refine ⟨List.mem_map.2 ⟨f, hf, ?_⟩, hsep.list_stays (h.nil_not_mem_emptied hp) hf hno,
    fun v hdir u hu => hsep.stays hf hno hdir hu⟩
  rw [Folder.judged, hunnamed]
  rfl

/-- Only empty directories of the job's folders leave the disk. -/
theorem finish_places (u : Place) :
    (Registry.finish d reg paths).1.at? u = d.at? u ∨
      (Registry.finish d reg paths).1.at? u = none ∧
        ∃ p ∈ paths, d.directoryOf p = .ok u ∧ d.entriesAt u = [] := by
  rw [h.finish_eq hd hs hp, at?_without]
  split
  · next hgone =>
    obtain ⟨g, hg, hnamed, hdir, hempty⟩ := Registry.mem_emptied_iff.1 hgone.1
    exact Or.inr ⟨rfl, g.path, (isNamed_iff (hs g hg) hp).1 hnamed, hdir, hempty⟩
  · exact Or.inl rfl

end Placed

end Disk

end PushToTalk
