import Mathlib
import PushToTalk.Proofs.Disk.Removal
import PushToTalk.Proofs.Registry

/-
  What becomes of the folders that a job is done with.

  A job that is done judges one path after the other, and each verdict may take a directory away
  that a later one looks for.  As long as the registered folders keep out of each other's way this
  makes no difference: every folder is judged by what was left in it when the job was done, the
  directories of the empty ones are gone afterwards, and nothing else has changed.

  `emptied` lists the directories that go, and `Folder.judged` gives the verdicts; both only ask
  which folders are named, not in which order or how often.  So the order of the paths does not
  matter, nor whether one is given twice or in another spelling.

  1. **Folders out of each other's way** (`Separate`) — no way to one of them leads through the
     directory of another.  On the way to a folder only its own directory may go then
     (`Separate.own_of_way`).

  2. **One verdict**, among those that were given before — it is the one on the disk from the
     beginning (`Separate.settle`).  There are four cases: no directory, a directory with entries,
     an empty one that is judged for the first time, and one that has gone already.

  3. **All verdicts** (`Separate.finish_eq`), by induction on the paths with the last one taken off,
     and what they come to.

  4. **Plain paths** — without links and steps up, folders keep out of each other's way if none lies
     inside another.

  What counts as empty must be removable (`Removable`).  This takes care of paths by which a directory
  is found and cannot be removed, such as one that ends in a dot; and of the root of the disk, which
  is never removed, even where a single folder is registered and leads to it.

  That no path lies inside another is not enough in general (`finish_cuts_way`): with the directory
  of one folder the way to another may go.

  Main statements: `Separate.finish_eq`, `finish_outcome` and `separate_of_plain`.
-/

namespace PushToTalk

variable {d : Disk} {r : Registry} {f g : Folder} {p q : Path} {paths : List Path} {u v : Place}

namespace Disk

/-- Whether nothing is left of a folder: its directory is missing or empty. -/
def isVacant (d : Disk) (p : Path) : Bool :=
  match d.list p with
  | .ok entries => entries.isEmpty
  | .error trouble => decide (trouble = .notFound)

/-- The verdict on a folder. -/
def verdict (d : Disk) (p : Path) : FolderState :=
  if d.isVacant p then .finishedSuccessfully else .finishedUnsuccessfully

/-- What counts as empty can be removed, or is not there.  The root cannot be removed. -/
def Removable (d : Disk) (p : Path) : Prop :=
  d.isEmptyDirectory p = .ok true →
    (d.removeIfThere p).isOk = true ∧ d.directoryOf p ≠ .ok []

/-- A folder whose directory is there is vacant if that is empty. -/
theorem isVacant_of_ok (h : d.directoryOf p = .ok v) :
    d.isVacant p = (d.entriesAt v).isEmpty := by
  unfold isVacant
  rw [list_eq, h]
  simp [Except.map]

/-- A folder without a directory is vacant if it is missing, and not if the path leads to
anything else. -/
theorem isVacant_of_error {trouble : Trouble} (h : d.directoryOf p = .error trouble) :
    d.isVacant p = decide (trouble = .notFound) := by
  unfold isVacant
  rw [list_eq, h]
  rfl

/-- A directory keeps its entries if nothing goes that stands right in it. -/
theorem entriesAt_without {gone : List Place} (h : ∀ u ∈ gone, u.dropLast ≠ v) :
    (d.without gone).entriesAt v = d.entriesAt v := by
  unfold entriesAt without
  rw [List.filterMap_filter]
  refine List.filterMap_congr fun e _ => ?_
  -- an entry of the directory is none of those that are gone
  by_cases hg : e.1 ∈ gone
  · have hne : e.1.dropLast ≠ v := h e.1 hg
    cases e.1.getLast? <;> simp [hg, hne]
  · simp [hg]

/-- The verdict on a folder without a directory goes by the reason, and changes nothing. -/
theorem settle_of_error {trouble : Trouble} (h : d.directoryOf p = .error trouble)
    (hr : trouble = .notFound → d.removeDirectory p = .error .notFound) :
    d.settle p = (d,
      if trouble = .notFound then .finishedSuccessfully else .finishedUnsuccessfully) := by
  unfold settle removeIfThere
  rw [isEmptyDirectory_eq, h]
  by_cases ht : trouble = .notFound
  · rw [hr ht, ht]
    rfl
  · cases trouble <;> first | exact absurd rfl ht | rfl

/-- A directory with entries is kept. -/
theorem settle_of_full (h : d.directoryOf p = .ok v) (he : d.entriesAt v ≠ []) :
    d.settle p = (d, .finishedUnsuccessfully) := by
  unfold settle
  rw [isEmptyDirectory_eq, h]
  simp [he]

/-- An empty directory goes, if it can be removed. -/
theorem settle_of_empty {d' : Disk} (h : d.directoryOf p = .ok v) (he : d.entriesAt v = [])
    (hr : d.removeDirectory p = .ok d') : d.settle p = (d', .finishedSuccessfully) := by
  unfold settle removeIfThere
  rw [isEmptyDirectory_eq, h, hr]
  simp [he]

end Disk

open Disk

/-! ## Folders out of each other's way -/

namespace Registry

/-- The registered folders keep out of each other's way: each has a path of its own, and no way to
one of them, from the root on, leads through the directory of another. -/
structure Separate (r : Registry) (d : Disk) : Prop where
  distinct : r.Distinct
  ways : ∀ f ∈ r.folders, ∀ g ∈ r.folders, (f.path == g.path) = false →
    ∀ v, d.directoryOf g.path = .ok v → v ∉ [] :: d.way linkLimit [] f.path.pieces

end Registry

/-- Whether a folder is named by one of the paths. -/
def Folder.isNamed (paths : List Path) (f : Folder) : Bool := paths.any (f.path == ·)

/-- A folder after a job that is done with the given paths. -/
def Folder.judged (d : Disk) (paths : List Path) (f : Folder) : Folder :=
  if f.isNamed paths then
    { f with state := d.verdict f.path }
  else f

namespace Registry

/-- The directories that go when a job is done with the given paths. -/
def emptied (d : Disk) (r : Registry) (paths : List Path) : List Place :=
  r.folders.filterMap fun f =>
    if f.isNamed paths && d.isVacant f.path then (d.directoryOf f.path).toOption else none

/-- The directories that go are the empty ones of registered folders that are named. -/
theorem mem_emptied_iff : v ∈ r.emptied d paths ↔
    ∃ f ∈ r.folders, f.isNamed paths = true ∧ d.directoryOf f.path = .ok v ∧
      d.entriesAt v = [] := by
  unfold emptied
  rw [List.mem_filterMap]
  constructor
  · rintro ⟨f, hf, h⟩
    split at h
    · next hcond =>
      obtain ⟨hnamed, hvacant⟩ := Bool.and_eq_true_iff.1 hcond
      cases hdir : d.directoryOf f.path with
      | error trouble =>
        rw [hdir] at h
        cases h
      | ok w =>
        rw [hdir] at h
        obtain rfl : w = v := Option.some.inj h
        rw [isVacant_of_ok hdir] at hvacant
        exact ⟨f, hf, hnamed, hdir, List.isEmpty_iff.1 hvacant⟩
    · cases h
  · rintro ⟨f, hf, hnamed, hdir, hempty⟩
    refine ⟨f, hf, ?_⟩
    rw [hnamed, isVacant_of_ok hdir, hempty, hdir]
    rfl

/-- What is named can be removed, so the root does not go. -/
theorem nil_not_mem_emptied
    (hr : ∀ q ∈ paths, (∃ f ∈ r.folders, (f.path == q) = true) → d.Removable q) :
    [] ∉ r.emptied d paths := by
  intro hm
  obtain ⟨f, hf, hnamed, hdir, hempty⟩ := mem_emptied_iff.1 hm
  obtain ⟨q, hq, hb⟩ := List.any_eq_true.1 hnamed
  have hq' : d.directoryOf q = .ok [] := directoryOf_of_beq d hb ▸ hdir
  exact (hr q hq ⟨f, hf, hb⟩ (by rw [isEmptyDirectory_eq, hq']; simp [hempty])).2 hq'

/-- On the way to a folder only its own directory may go. -/
theorem Separate.own_of_way (h : r.Separate d) (hf : f ∈ r.folders)
    (hu : u ∈ d.way linkLimit [] f.path.pieces) (hm : u ∈ r.emptied d paths) :
    f.isNamed paths = true ∧ d.directoryOf f.path = .ok u ∧ d.entriesAt u = [] := by
  obtain ⟨g, hg, hnamed, hdir, hempty⟩ := mem_emptied_iff.1 hm
  cases hb : f.path == g.path with
  | false => exact absurd (List.mem_cons_of_mem _ hu) (h.ways f hf g hg hb u hdir)
  | true =>
    obtain rfl := h.distinct.unique hf hg hb
    exact ⟨hnamed, hdir, hempty⟩

/-- Directly below the directory of a folder no directory goes. -/
theorem Separate.dropLast_ne (h : r.Separate d) (hroot : [] ∉ r.emptied d paths)
    (hf : f ∈ r.folders) (hv : d.directoryOf f.path = .ok v) (hm : u ∈ r.emptied d paths) :
    u.dropLast ≠ v := by
  rintro rfl
  obtain ⟨g, hg, -, hdir, -⟩ := mem_emptied_iff.1 hm
  cases hb : g.path == f.path with
  | false =>
    -- the way to a place below comes down through the directory
    have habove : Above (· ∈ [] :: d.way linkLimit [] g.path.pieces) u :=
      above_of_walk linkLimit [] g.path.pieces (above_nil List.mem_cons_self)
        (fun w hw => List.mem_cons_of_mem _ hw) true (directoryOf_eq_ok_iff.1 hdir).1
    exact h.ways g hg f hf hb _ hv habove.dropLast.here
  | true =>
    -- no place is below itself, but for the root, which does not go
    obtain rfl := h.distinct.unique hg hf hb
    obtain heq : u = u.dropLast := Except.ok.inj (hdir.symm.trans hv)
    have hl := congrArg List.length heq
    rw [List.length_dropLast] at hl
    have hnil : u = [] := List.length_eq_zero_iff.1 (by omega)
    exact hroot (hnil ▸ hm)

end Registry

/-! ## One verdict -/

/-- Where nothing changes on the way to a folder, it stays where it is and is removed as before. -/
theorem walk_trimmed_congr {d' : Disk} (hq : (f.path == q) = true)
    (hw : ∀ u ∈ d.way linkLimit [] f.path.pieces, SameAt d d' u) :
    d'.walk false linkLimit [] (trimmed q) = d.walk false linkLimit [] (trimmed q) ∧
      ∀ v, d.walk false linkLimit [] (trimmed q) = .ok v → SameAt d d' v := by
  have hway : d.way linkLimit [] (trimmed q) = d.way linkLimit [] f.path.pieces :=
    way_of_moves d (by rw [moves_trimmed, moves_of_beq hq])
  rw [← hway] at hw
  exact ⟨(walk_congr linkLimit [] (trimmed q) (sameAt_root d d') hw).2 false,
    fun v hv => (above_of_walk linkLimit [] (trimmed q) (sameAt_root d d') hw false hv).here⟩

/-- A path leads to the same directory in every spelling, and on every disk that is the same on
the way. -/
theorem directoryOf_congr {d' : Disk} (hq : (f.path == q) = true)
    (hw : ∀ u ∈ d.way linkLimit [] f.path.pieces, SameAt d d' u) :
    d'.directoryOf q = d.directoryOf f.path := by
  rw [← directoryOf_of_beq d' hq]
  have hwalk := (walk_congr linkLimit [] f.path.pieces (sameAt_root d d') hw).2 true
  unfold directoryOf directoryAlong
  rw [hwalk]
  cases he : d.walk true linkLimit [] f.path.pieces with
  | error trouble => rfl
  | ok v =>
    have hsame : d'.at? v = d.at? v :=
      (above_of_walk linkLimit [] f.path.pieces (sameAt_root d d') hw true he).here
    dsimp only [bind, Except.bind]
    rw [hsame]

/-- A directory that is missing can be missed by those who would remove it. -/
theorem removeDirectory_eq_notFound (h : d.removeDirectory p = .error .notFound) :
    d.walk false linkLimit [] (trimmed p) = .error .notFound ∨
      ((trimmed p).getLast? == some ".") = false ∧
        ∃ v, d.walk false linkLimit [] (trimmed p) = .ok v ∧ d.at? v = none := by
  cases hw : d.walk false linkLimit [] (trimmed p) with
  | error trouble =>
    rw [removeDirectory_of_trouble hw] at h
    exact Or.inl (congrArg Except.error (Except.error.inj h))
  | ok v =>
    rw [removeDirectory_of_end hw] at h
    split at h
    · cases h
    next hdot =>
    refine Or.inr ⟨by simpa using hdot, v, rfl, ?_⟩
    cases hn : d.at? v with
    | none => rfl
    | some node =>
      cases node with
      | file | link => simp [hn] at h
      | directory =>
        simp only [hn] at h
        split at h <;> cases h

namespace Registry

/-- As long as its own directory did not go, a folder is found as it was. -/
theorem Separate.same_on_way (h : r.Separate d) (hf : f ∈ r.folders)
    (hown : ∀ v, f.isNamed paths = true → d.directoryOf f.path = .ok v → d.entriesAt v ≠ []) :
    ∀ u ∈ d.way linkLimit [] f.path.pieces, SameAt d (d.without (r.emptied d paths)) u := by
  intro u hu
  show (d.without (r.emptied d paths)).at? u = d.at? u
  rw [at?_without, if_neg]
  rintro ⟨hm, -⟩
  obtain ⟨hnamed, hdir, hempty⟩ := h.own_of_way hf hu hm
  exact hown u hnamed hdir hempty

/-- Only folders that have an empty directory make a difference to what goes. -/
theorem emptied_snoc (h : r.Distinct) (hf : f ∈ r.folders) (hq : (f.path == q) = true)
    (hown : ∀ v, d.directoryOf f.path = .ok v → d.entriesAt v = [] → f.isNamed paths = true) :
    ∀ v, v ∈ r.emptied d (paths ++ [q]) ↔ v ∈ r.emptied d paths := by
  intro v
  simp only [mem_emptied_iff, Folder.isNamed, List.any_append, List.any_cons, List.any_nil,
    Bool.or_false, Bool.or_eq_true]
  constructor
  · rintro ⟨g, hg, hnamed | hb, hdir, hempty⟩
    · exact ⟨g, hg, hnamed, hdir, hempty⟩
    · obtain rfl := h.unique hg hf (PartialEquivBEq.trans hb (PartialEquivBEq.symm hq))
      exact ⟨g, hg, hown v hdir hempty, hdir, hempty⟩
  · rintro ⟨g, hg, hnamed, hdir, hempty⟩
    exact ⟨g, hg, Or.inl hnamed, hdir, hempty⟩

/-- What has no directory is judged by that, and nothing goes. -/
theorem Separate.settle_none (h : r.Separate d) (hf : f ∈ r.folders)
    (hq : (f.path == q) = true) (hr : d.Removable q) {trouble : Trouble}
    (hdir : d.directoryOf f.path = .error trouble) :
    (d.without (r.emptied d paths)).settle q = (d.without (r.emptied d paths),
      if trouble = .notFound then .finishedSuccessfully else .finishedUnsuccessfully) := by
  have hown : ∀ v, f.isNamed paths = true → d.directoryOf f.path = .ok v →
      d.entriesAt v ≠ [] := by
    intro v _ hv
    rw [hdir] at hv
    cases hv
  have hsame : ∀ u ∈ d.way linkLimit [] f.path.pieces,
      SameAt d (d.without (r.emptied d paths)) u := h.same_on_way hf hown
  obtain ⟨hwalk, hend⟩ := walk_trimmed_congr hq hsame
  refine settle_of_error ((directoryOf_congr hq hsame).trans hdir) fun ht => ?_
  subst ht
  -- whoever would remove it before misses it, too
  have hq' : d.directoryOf q = .error .notFound := directoryOf_of_beq d hq ▸ hdir
  have hmissing : d.removeDirectory q = .error .notFound := by
    have hok := (hr (by rw [isEmptyDirectory_eq, hq'])).1
    unfold removeIfThere at hok
    cases hrem : d.removeDirectory q with
    | ok d'' =>
      obtain ⟨v, -, -, hv, -⟩ := removeDirectory_eq_ok hrem
      rw [hq'] at hv
      cases hv
    | error trouble =>
      rw [hrem] at hok
      cases trouble <;> first | rfl | cases hok
  rcases removeDirectory_eq_notFound hmissing with hw | ⟨hdot, v, hw, hv⟩
  · exact removeDirectory_of_trouble (hwalk.trans hw)
  · rw [removeDirectory_of_end (hwalk.trans hw), hdot, (hend v hw).trans hv]
    rfl

/-- What is not empty stays. -/
theorem Separate.settle_full (h : r.Separate d) (hroot : [] ∉ r.emptied d paths)
    (hf : f ∈ r.folders) (hq : (f.path == q) = true) (hdir : d.directoryOf f.path = .ok v)
    (he : d.entriesAt v ≠ []) :
    (d.without (r.emptied d paths)).settle q =
      (d.without (r.emptied d paths), .finishedUnsuccessfully) := by
  have hown : ∀ w, f.isNamed paths = true → d.directoryOf f.path = .ok w →
      d.entriesAt w ≠ [] := by
    intro w _ hw
    obtain rfl := Except.ok.inj (hdir.symm.trans hw)
    exact he
  refine settle_of_full ((directoryOf_congr hq (h.same_on_way hf hown)).trans hdir) ?_
  rwa [entriesAt_without fun u hu => h.dropLast_ne hroot hf hdir hu]

/-- An empty directory can be removed, whatever went before. -/
theorem removeDirectory_of_removable (hq : (f.path == q) = true) (hr : d.Removable q)
    (hdir : d.directoryOf f.path = .ok v) (he : d.entriesAt v = []) :
    d.walk false linkLimit [] (trimmed q) = .ok v ∧
      ((trimmed q).getLast? == some ".") = false := by
  have hq' : d.directoryOf q = .ok v := directoryOf_of_beq d hq ▸ hdir
  have hok := (hr (by rw [isEmptyDirectory_eq, hq']; simp [he])).1
  unfold removeIfThere at hok
  cases hrem : d.removeDirectory q with
  | ok d'' =>
    obtain ⟨w, hw, hdot, hdw, -⟩ := removeDirectory_eq_ok hrem
    obtain rfl := Except.ok.inj (hdw.symm.trans hq')
    exact ⟨hw, hdot⟩
  | error trouble =>
    rw [hrem] at hok
    cases trouble with
    | notFound =>
      -- the directory is there, so nobody can miss it
      exfalso
      have halong : d.directoryAlong linkLimit [] (trimmed q) = .ok v :=
        (directoryAlong_of_moves d (moves_trimmed q)).trans hq'
      obtain ⟨hres, hat⟩ := directoryAlong_eq_ok_iff.1 halong
      obtain ⟨w, hw, hcases⟩ := walk_entry_cases linkLimit [] (trimmed q) hres
        (by rw [hat]; exact Option.some_ne_none _)
      have hthere : d.at? w ≠ none := by
        rcases hcases with rfl | ⟨target, _, hl, -⟩
        · rw [hat]
          exact Option.some_ne_none _
        · rw [hl]
          exact Option.some_ne_none _
      rcases removeDirectory_eq_notFound hrem with he | ⟨-, w', hw', hnone⟩
      · rw [hw] at he
        cases he
      · obtain rfl := Except.ok.inj (hw.symm.trans hw')
        exact hthere hnone
    | _ => cases hok

/-- What is empty goes, if it is judged for the first time. -/
theorem Separate.settle_first (h : r.Separate d) (hroot : [] ∉ r.emptied d paths)
    (hf : f ∈ r.folders) (hq : (f.path == q) = true) (hr : d.Removable q) (hdir : d.directoryOf f.path = .ok v)
    (he : d.entriesAt v = []) (hn : f.isNamed paths = false) :
    (d.without (r.emptied d paths)).settle q =
      (d.without (r.emptied d paths ++ [v]), .finishedSuccessfully) := by
  have hown : ∀ w, f.isNamed paths = true → d.directoryOf f.path = .ok w →
      d.entriesAt w ≠ [] := by
    intro w hnamed
    rw [hn] at hnamed
    cases hnamed
  have hsame := h.same_on_way hf hown
  obtain ⟨hwalk, hend⟩ := walk_trimmed_congr hq hsame
  obtain ⟨hw, hdot⟩ := removeDirectory_of_removable hq hr hdir he
  have hempty : (d.without (r.emptied d paths)).entriesAt v = [] :=
    (entriesAt_without fun u hu => h.dropLast_ne hroot hf hdir hu).trans he
  refine settle_of_empty ((directoryOf_congr hq hsame).trans hdir) hempty ?_
  rw [removeDirectory_of_end (hwalk.trans hw), hdot, (hend v hw).trans
    (directoryOf_eq_ok_iff.1 hdir).2, hempty, clear_without]
  rfl

/-- Nothing but its own directory went on the way to a folder. -/
theorem Separate.same_but_own (h : r.Separate d) (hf : f ∈ r.folders)
    (hdir : d.directoryOf f.path = .ok v) : ∀ u ∈ d.way linkLimit [] f.path.pieces, u ≠ v →
      SameAt d (d.without (r.emptied d paths)) u := by
  intro u hu hne
  show (d.without (r.emptied d paths)).at? u = d.at? u
  rw [at?_without, if_neg]
  rintro ⟨hm, -⟩
  obtain ⟨-, hdu, -⟩ := h.own_of_way hf hu hm
  exact hne (Except.ok.inj (hdu.symm.trans hdir))

/-- At the place of a directory that went there is nothing. -/
theorem at?_gone (hroot : [] ∉ r.emptied d paths) (hf : f ∈ r.folders)
    (hdir : d.directoryOf f.path = .ok v) (he : d.entriesAt v = [])
    (hn : f.isNamed paths = true) : (d.without (r.emptied d paths)).at? v = none := by
  have hm : v ∈ r.emptied d paths := mem_emptied_iff.2 ⟨f, hf, hn, hdir, he⟩
  rw [at?_without, if_pos ⟨hm, fun hnil => hroot (hnil ▸ hm)⟩]

/-- The directory of a folder that went is not found any more. -/
theorem Separate.directoryOf_gone (h : r.Separate d) (hroot : [] ∉ r.emptied d paths)
    (hf : f ∈ r.folders) (hq : (f.path == q) = true) (hdir : d.directoryOf f.path = .ok v)
    (he : d.entriesAt v = []) (hn : f.isNamed paths = true) :
    (d.without (r.emptied d paths)).directoryOf q = .error .notFound := by
  obtain ⟨hwalk, hat⟩ := directoryOf_eq_ok_iff.1 hdir
  have hgone := at?_gone hroot hf hdir he hn
  rw [← directoryOf_of_beq _ hq]
  unfold directoryOf directoryAlong
  rcases walk_gone linkLimit [] f.path.pieces hgone hat (sameAt_root _ _)
    (h.same_but_own hf hdir) hwalk with hend | hend <;> rw [hend]
  · dsimp only [bind, Except.bind]
    rw [hgone]
  · rfl

/-- What is gone is missing when it is judged again. -/
theorem Separate.settle_again (h : r.Separate d) (hroot : [] ∉ r.emptied d paths)
    (hf : f ∈ r.folders) (hq : (f.path == q) = true) (hr : d.Removable q) (hdir : d.directoryOf f.path = .ok v)
    (he : d.entriesAt v = []) (hn : f.isNamed paths = true) :
    (d.without (r.emptied d paths)).settle q =
      (d.without (r.emptied d paths), .finishedSuccessfully) := by
  have hgone := at?_gone hroot hf hdir he hn
  obtain ⟨hw, hdot⟩ := removeDirectory_of_removable hq hr hdir he
  have hway := way_of_moves d ((moves_trimmed q).trans (moves_of_beq hq).symm)
  refine settle_of_error (h.directoryOf_gone hroot hf hq hdir he hn) fun _ => ?_
  rcases walk_gone linkLimit [] (trimmed q) hgone (directoryOf_eq_ok_iff.1 hdir).2
    (sameAt_root _ _) (hway ▸ h.same_but_own hf hdir) hw with hend | hend
  · rw [removeDirectory_of_end hend, hdot, hgone]
    rfl
  · exact removeDirectory_of_trouble hend

/-- The verdict on a folder among those that were given before: it hangs on what was left in the
folder at first, and no other directory goes. -/
theorem Separate.settle (h : r.Separate d) (hroot : [] ∉ r.emptied d paths) (hf : f ∈ r.folders)
    (hq : (f.path == q) = true) (hr : d.Removable q) :
    (d.without (r.emptied d paths)).settle q =
      (d.without (r.emptied d (paths ++ [q])), d.verdict f.path) := by
  unfold verdict
  cases hdir : d.directoryOf f.path with
  | error trouble =>
    rw [h.settle_none hf hq hr hdir, isVacant_of_error hdir,
      without_congr (emptied_snoc h.distinct hf hq fun v hv => by rw [hdir] at hv; cases hv)]
    simp
  | ok v =>
    rw [isVacant_of_ok hdir]
    -- an empty folder goes when it is named first, and is gone when it is named again
    by_cases he : d.entriesAt v = []
    · rw [he]
      cases hn : f.isNamed paths with
      | true =>
        rw [h.settle_again hroot hf hq hr hdir he hn,
          without_congr (emptied_snoc h.distinct hf hq fun _ _ _ => hn)]
        rfl
      | false =>
        rw [h.settle_first hroot hf hq hr hdir he hn]
        refine Prod.ext (without_congr fun u => ?_) rfl
        rw [List.mem_append, List.mem_singleton, mem_emptied_iff, mem_emptied_iff]
        simp only [Folder.isNamed, List.any_append, List.any_cons, List.any_nil, Bool.or_false,
          Bool.or_eq_true]
        constructor
        · rintro (⟨g, hg, hnamed, hrest⟩ | rfl)
          · exact ⟨g, hg, Or.inl hnamed, hrest⟩
          · exact ⟨f, hf, Or.inr hq, hdir, he⟩
        · rintro ⟨g, hg, hnamed | hb, hgdir, hempty⟩
          · exact Or.inl ⟨g, hg, hnamed, hgdir, hempty⟩
          · obtain rfl := h.distinct.unique hg hf
              (PartialEquivBEq.trans hb (PartialEquivBEq.symm hq))
            exact Or.inr (Except.ok.inj (hgdir.symm.trans hdir))
    · rw [h.settle_full hroot hf hq hdir he, without_congr (emptied_snoc h.distinct hf hq fun w hw hnil => by
        obtain rfl := Except.ok.inj (hdir.symm.trans hw)
        exact absurd hnil he)]
      simp [he]

end Registry

/-! ## All verdicts -/

/-- A verdict leaves the path of a folder as it was. -/
@[simp] theorem Folder.judged_path (f : Folder) : (f.judged d paths).path = f.path := by
  unfold Folder.judged
  split <;> rfl

/-- One more path names one more folder, or none. -/
theorem Folder.isNamed_snoc (f : Folder) (paths : List Path) (q : Path) :
    f.isNamed (paths ++ [q]) = (f.isNamed paths || f.path == q) := by
  simp [Folder.isNamed]

namespace Registry

/-- One verdict more. -/
theorem Separate.judged_snoc (h : r.Separate d) (hf : f ∈ r.folders)
    (hq : (f.path == q) = true) (hg : g ∈ r.folders) :
    (if g.path == q then { g.judged d paths with state := d.verdict f.path }
      else g.judged d paths) = g.judged d (paths ++ [q]) := by
  by_cases hb : (g.path == q) = true
  · obtain rfl := h.distinct.unique hg hf (PartialEquivBEq.trans hb (PartialEquivBEq.symm hq))
    rw [if_pos hb]
    unfold Folder.judged
    rw [Folder.isNamed_snoc, hb, Bool.or_true, if_pos rfl]
    split <;> rfl
  · rw [if_neg hb]
    unfold Folder.judged
    rw [Folder.isNamed_snoc, Bool.eq_false_iff.2 hb, Bool.or_false]

/-- The verdicts make nobody known and nobody unknown. -/
theorem isKnown_judged (d : Disk) (r : Registry) (paths : List Path) (q : Path) :
    (stateOf? ⟨r.folders.map (Folder.judged d paths), r.active⟩ q).isSome = true ↔
      ∃ f ∈ r.folders, (f.path == q) = true := by
  unfold stateOf?
  rw [Option.isSome_map, List.find?_isSome]
  constructor
  · rintro ⟨f, hf, hb⟩
    obtain ⟨g, hg, rfl⟩ := List.mem_map.1 hf
    rw [Folder.judged_path] at hb
    exact ⟨g, hg, hb⟩
  · rintro ⟨f, hf, hb⟩
    refine ⟨_, List.mem_map_of_mem hf, ?_⟩
    rw [Folder.judged_path]
    exact hb

/-- A path that is not known names nobody. -/
theorem isNamed_snoc_of_unknown (hno : ¬ ∃ f ∈ r.folders, (f.path == q) = true)
    (hg : g ∈ r.folders) : g.isNamed (paths ++ [q]) = g.isNamed paths := by
  rw [Folder.isNamed_snoc]
  cases hb : g.path == q with
  | true => exact absurd ⟨g, hg, hb⟩ hno
  | false => exact Bool.or_false _

/-- A job that is done takes the directories of the empty folders away and gives its verdicts. -/
theorem Separate.finish_eq (h : r.Separate d)
    (hr : ∀ q ∈ paths, (∃ f ∈ r.folders, (f.path == q) = true) → d.Removable q) :
    finish d r paths =
      (d.without (r.emptied d paths), ⟨r.folders.map (Folder.judged d paths), r.active⟩) := by
  -- with the last path taken off, as the verdicts before it are those that `settle` is about
  induction paths using List.reverseRecOn with
  | nil =>
    have hnone : r.emptied d [] = [] := by
      rw [List.eq_nil_iff_forall_not_mem]
      intro v hv
      obtain ⟨f, -, hnamed, -⟩ := mem_emptied_iff.1 hv
      cases hnamed
    rw [hnone, without_nil]
    exact Prod.ext rfl (congrArg (Registry.mk · r.active) (List.map_id _).symm)
  | append_singleton paths q ih =>
    have hfront : ∀ q' ∈ paths, (∃ f ∈ r.folders, (f.path == q') = true) → d.Removable q' :=
      fun q' hq' => hr q' (List.mem_append_left _ hq')
    have ih := ih hfront
    show List.foldl finishOne (d, r) (paths ++ [q]) = _
    rw [List.foldl_append]
    show finishOne (finish d r paths) q = _
    rw [ih]
    have hknown := isKnown_judged d r paths q
    by_cases hreg : ∃ f ∈ r.folders, (f.path == q) = true
    · have hstate := hknown.2 hreg
      obtain ⟨f, hf, hq⟩ := hreg
      have hremovable := hr q (List.mem_append_right _ (List.mem_singleton_self q)) ⟨f, hf, hq⟩
      have hdistinct : Distinct ⟨r.folders.map (Folder.judged d paths), r.active⟩ :=
        h.distinct.of_map (fun f _ => f.judged_path) rfl
      unfold finishOne
      simp only [hstate, if_true, h.settle (nil_not_mem_emptied hfront) hf hq hremovable]
      refine Prod.ext rfl ?_
      show Registry.mk (setState _ q _).folders r.active = _
      rw [setState_folders hdistinct, List.map_map]
      congr 1
      refine List.map_congr_left fun g hg => ?_
      rw [← h.judged_snoc hf hq hg]
      simp only [Function.comp_apply, Folder.judged_path]
    · have hstate := mt hknown.1 hreg
      have hnamed : ∀ g ∈ r.folders, g.isNamed (paths ++ [q]) = g.isNamed paths :=
        fun g hg => isNamed_snoc_of_unknown hreg hg
      unfold finishOne
      simp only [hstate]
      refine Prod.ext (without_congr fun v => ?_) (congrArg (Registry.mk · r.active) ?_)
      · simp only [mem_emptied_iff]
        constructor
        · rintro ⟨g, hg, hn, hrest⟩
          exact ⟨g, hg, by rwa [hnamed g hg], hrest⟩
        · rintro ⟨g, hg, hn, hrest⟩
          exact ⟨g, hg, by rwa [hnamed g hg] at hn, hrest⟩
      · refine List.map_congr_left fun g hg => ?_
        unfold Folder.judged
        rw [hnamed g hg]

/-- Below the directory of a folder that is not empty, or that is not named, nothing goes. -/
theorem Separate.stays (h : r.Separate d) (hf : f ∈ r.folders)
    (hn : f.isNamed paths = true → d.isVacant f.path = false)
    (hv : d.directoryOf f.path = .ok v) (hu : v <+: u) :
    (d.without (r.emptied d paths)).at? u = d.at? u := by
  rw [at?_without, if_neg]
  rintro ⟨hm, -⟩
  obtain ⟨g, hg, hnamed, hdir, hempty⟩ := mem_emptied_iff.1 hm
  -- whatever goes belongs to another folder, and the way there does not come by here
  cases hb : g.path == f.path with
  | true =>
    obtain rfl := h.distinct.unique hg hf hb
    have hfull := hn hnamed
    rw [isVacant_of_ok hdir, hempty] at hfull
    cases hfull
  | false =>
    have habove : Above (· ∈ [] :: d.way linkLimit [] g.path.pieces) u :=
      above_of_walk linkLimit [] g.path.pieces (above_nil List.mem_cons_self)
        (fun w hw => List.mem_cons_of_mem _ hw) true (directoryOf_eq_ok_iff.1 hdir).1
    exact h.ways g hg f hf hb v hv (habove v hu)

/-- Whoever looks for a folder that is not empty, or that is not named, finds it as it was. -/
theorem Separate.list_stays (h : r.Separate d) (hroot : [] ∉ r.emptied d paths)
    (hf : f ∈ r.folders) (hn : f.isNamed paths = true → d.isVacant f.path = false) :
    (d.without (r.emptied d paths)).list f.path = d.list f.path := by
  have hown : ∀ v, f.isNamed paths = true → d.directoryOf f.path = .ok v →
      d.entriesAt v ≠ [] := by
    intro v hnamed hv he
    have hfull := hn hnamed
    rw [isVacant_of_ok hv, he] at hfull
    cases hfull
  rw [list_eq, list_eq, directoryOf_congr (Path.beq_refl _) (h.same_on_way hf hown)]
  cases hdir : d.directoryOf f.path with
  | error trouble => rfl
  | ok v =>
    simp only [Except.map]
    rw [entriesAt_without fun u hu => h.dropLast_ne hroot hf hdir hu]

/-- Whoever looks for a folder that is named and empty finds nothing. -/
theorem Separate.list_gone (h : r.Separate d) (hroot : [] ∉ r.emptied d paths)
    (hf : f ∈ r.folders) (hn : f.isNamed paths = true) (hv : d.isVacant f.path = true) :
    (d.without (r.emptied d paths)).list f.path = .error .notFound := by
  rw [list_eq]
  cases hdir : d.directoryOf f.path with
  | error trouble =>
    rw [isVacant_of_error hdir, decide_eq_true_eq] at hv
    subst hv
    rw [directoryOf_congr (Path.beq_refl _) (h.same_on_way hf fun w _ hw => by
      rw [hdir] at hw
      cases hw), hdir]
    rfl
  | ok v =>
    rw [isVacant_of_ok hdir, List.isEmpty_iff] at hv
    rw [h.directoryOf_gone hroot hf (Path.beq_refl _) hdir hv hn]
    rfl

end Registry

/-- What a job leaves that is done with the given paths, as long as the registered folders keep
out of each other's way and what counts as empty can be removed.  Every registered folder that is
named is finished: for good, if its directory was missing or empty, and then it cannot be found any
more; else with something left over, and then its directory is as it was, with all that is in it.
So is every other folder.  Nothing else changes on the disk, nor in the registry; and it does not
matter in which order, or how often, the paths are given. -/
theorem finish_outcome (h : r.Separate d)
    (hr : ∀ q ∈ paths, (∃ f ∈ r.folders, (f.path == q) = true) → d.Removable q) :
    let after := Registry.finish d r paths
    after.2.active = r.active ∧ after.2.folders = r.folders.map (Folder.judged d paths) ∧
    (∀ f ∈ r.folders, f.isNamed paths = true → d.isVacant f.path = true →
      after.1.list f.path = .error .notFound) ∧
    (∀ f ∈ r.folders, (f.isNamed paths = true → d.isVacant f.path = false) →
      after.1.list f.path = d.list f.path ∧
        ∀ v, d.directoryOf f.path = .ok v → ∀ u, v <+: u → after.1.at? u = d.at? u) ∧
    (∀ u, after.1.at? u = d.at? u ∨ after.1.at? u = none ∧ ∃ f ∈ r.folders,
      f.isNamed paths = true ∧ d.directoryOf f.path = .ok u ∧ d.entriesAt u = []) ∧
    ∀ others : List Path, (∀ q, q ∈ others ↔ q ∈ paths) → Registry.finish d r others = after := by
  intro after
  have hafter : after = (d.without (r.emptied d paths), _) := h.finish_eq hr
  have hroot := Registry.nil_not_mem_emptied hr
  rw [hafter]
  refine ⟨rfl, rfl, fun f hf hn hv => h.list_gone hroot hf hn hv,
    fun f hf hn => ⟨h.list_stays hroot hf hn,
    fun v hv u hu => h.stays hf hn hv hu⟩, fun u => ?_, fun others hothers => ?_⟩
  · by_cases hm : u ∈ r.emptied d paths
    · refine Or.inr ⟨?_, Registry.mem_emptied_iff.1 hm⟩
      rw [at?_without, if_pos ⟨hm, fun hnil => hroot (hnil ▸ hm)⟩]
    · left
      rw [at?_without, if_neg fun hg => hm hg.1]
  · -- both the verdicts and what goes only hang on which folders are named
    have hnamed : ∀ f : Folder, f.isNamed others = f.isNamed paths := by
      intro f
      rw [Bool.eq_iff_iff]
      simp only [Folder.isNamed, List.any_eq_true, hothers]
    have hemptied : r.emptied d others = r.emptied d paths := by
      simp only [Registry.emptied, hnamed]
    have hjudged : Folder.judged d others = Folder.judged d paths := by
      funext f
      simp only [Folder.judged, hnamed]
    rw [h.finish_eq fun q hq => hr q ((hothers q).1 hq), hemptied, hjudged]

/-- The way to the second folder leads through the first. -/
def sampleCrossing : Registry where
  folders := [⟨⟨["b"]⟩, .processing⟩, ⟨⟨["x", "..", "b", "..", "c"]⟩, .processing⟩]
  active := none

/-- The disk with both folders, the first of them empty. -/
def sampleCrossingDisk : Disk :=
  ⟨⟨[(["x"], .directory), (["b"], .directory), (["c"], .directory),
    (["c", "1-a.wav"], .file [1])]⟩⟩

/-- It is not enough that no path lies inside another: with the directory of the first folder the
way to the second goes, and what nobody finds counts as empty. -/
theorem finish_cuts_way :
    let paths := sampleCrossing.folders.map (·.path)
    sampleCrossing.Distinct ∧
    (∀ f ∈ sampleCrossing.folders, ∀ g ∈ sampleCrossing.folders, (f.path == g.path) = false →
      ¬ f.path.parts <+: g.path.parts) ∧
    (∀ q ∈ paths, sampleCrossingDisk.Removable q) ∧
    sampleCrossingDisk.list ⟨["x", "..", "b", "..", "c"]⟩ = .ok [("1-a.wav", .file)] ∧
    (Registry.finish sampleCrossingDisk sampleCrossing paths).2.folders.map (·.state) =
      [.finishedSuccessfully, .finishedSuccessfully] := by
  intro paths
  refine ⟨by unfold Registry.Distinct; decide, by decide, fun q hq hempty => ?_, by cbv, by cbv⟩
  rcases List.mem_pair.1 hq with rfl | rfl
  · cbv
    intro hroot
    cases hroot
  · have hfull : sampleCrossingDisk.isEmptyDirectory ⟨["x", "..", "b", "..", "c"]⟩ =
        .ok false := by cbv
    rw [hfull] at hempty
    cases hempty

/-! ## Plain paths -/

namespace Disk

/-- Where there are no links, a walk that never goes up just goes down, one move after the
other. -/
theorem walk_down (hl : ∀ v target, d.at? v ≠ some (.link target)) (links : Nat) (place : Place)
    (pieces : List String) (hup : ".." ∉ pieces) :
    (∀ u ∈ d.way links place pieces, u <+: place ++ moves pieces) ∧
      ∀ v, d.walk true links place pieces = .ok v → v = place ++ moves pieces := by
  induction links, place, pieces using walk_induction d with
  | nil links place =>
    rw [way_nil, walk_nil]
    refine ⟨fun u hu => absurd hu List.not_mem_nil, fun v hv => ?_⟩
    rw [← Except.ok.inj hv]
    exact (List.append_nil place).symm
  | stuck links place piece rest hd =>
    rw [way_stuck hd, walk_stuck hd]
    exact ⟨fun u hu => absurd hu List.not_mem_nil, fun v hv => by cases hv⟩
  | idle links place piece rest hd hi ih =>
    rw [way_idle hd hi, walk_idle hd hi, moves_cons_of_idle hi]
    exact ih fun hm => hup (List.mem_cons_of_mem _ hm)
  | up => exact absurd List.mem_cons_self hup
  -- the last piece may be missing, and the walk ends at its place all the same
  | missing links place piece rest hd hplain hn =>
    rw [way_missing hd hplain hn, walk_missing hd hplain hn, moves_cons hplain.1]
    refine ⟨fun u hu => ?_, fun v hv => ?_⟩
    · rw [List.mem_singleton.1 hu, List.append_cons place piece (moves rest)]
      exact List.prefix_append _ _
    · split at hv
      · next hr =>
        rw [List.isEmpty_iff.1 hr]
        exact (Except.ok.inj hv).symm
      · cases hv
  | enter links place piece rest node hd hplain hn hne ih =>
    obtain ⟨hway, hwalk⟩ := ih fun hm => hup (List.mem_cons_of_mem _ hm)
    rw [way_enter hd hplain hn hne, walk_enter hd hplain hn hne, moves_cons hplain.1,
      List.append_cons place piece (moves rest)]
    refine ⟨fun u hu => ?_, hwalk⟩
    rcases List.mem_cons.1 hu with rfl | hu
    · exact List.prefix_append _ _
    · exact hway u hu
  | spent place piece rest target hd hplain hn => exact absurd hn (hl _ _)
  | link links place piece rest target hd hplain hn => exact absurd hn (hl _ _)

/-- Whether a disk is without links can be told from its entries. -/
theorem ne_link_of_entries (h : ∀ e ∈ d.nodes.entries, e.2.kind ≠ .link) (v : Place)
    (target : Path) : d.at? v ≠ some (.link target) := by
  intro hv
  rcases List.eq_nil_or_concat v with rfl | ⟨above, name, rfl⟩
  · cases hv
  · rw [List.concat_eq_append, at?_concat] at hv
    obtain ⟨e, he, hnode⟩ := Option.map_eq_some_iff.1 hv
    exact h e (List.mem_of_find?_eq_some he) (by rw [hnode]; rfl)

end Disk

/-- Without links, and without steps up, folders keep out of each other's way if none of them lies
inside another. -/
theorem separate_of_plain (hd : r.Distinct) (hl : ∀ v target, d.at? v ≠ some (.link target))
    (hup : ∀ f ∈ r.folders, ".." ∉ f.path.pieces)
    (hinside : ∀ f ∈ r.folders, ∀ g ∈ r.folders, (f.path == g.path) = false →
      ¬ moves g.path.pieces <+: moves f.path.pieces) : r.Separate d where
  distinct := hd
  ways f hf g hg hb v hv hm := by
    obtain rfl := (walk_down hl linkLimit [] g.path.pieces (hup g hg)).2 v
      (directoryOf_eq_ok_iff.1 hv).1
    refine hinside f hf g hg hb ?_
    rcases List.mem_cons.1 hm with hnil | hm
    · rw [List.nil_append] at hnil
      rw [hnil]
      exact List.nil_prefix
    · exact (walk_down hl linkLimit [] f.path.pieces (hup f hf)).1 _ hm

/-- Two folders are there, one of them empty, and a third is missing. -/
def sampleFolders : Registry where
  folders := [⟨⟨["rec", "voice0"]⟩, .processing⟩, ⟨⟨["rec", "voice1"]⟩, .processing⟩,
    ⟨⟨["rec", "voice2"]⟩, .processing⟩]
  active := some ⟨["rec", "voice3"]⟩

/-- The disk with those folders, and with one that is not registered. -/
def sampleFoldersDisk : Disk :=
  ⟨⟨[(["rec"], .directory), (["rec", "voice0"], .directory), (["rec", "voice1"], .directory),
    (["rec", "voice1", "7-a.wav"], .file [1]), (["rec", "voice9"], .directory)]⟩⟩

/-- The sample folders keep out of each other's way, so each of them is judged by what was left in
it, though the empty one is named twice. -/
theorem finish_outcome_sample :
    let paths : List Path := [⟨["rec", "voice1"]⟩, ⟨["rec", "voice0"]⟩, ⟨["rec", "voice9"]⟩,
      ⟨["rec", "", "voice0", ""]⟩, ⟨["rec", "voice2"]⟩]
    sampleFolders.Separate sampleFoldersDisk ∧
    (∀ q ∈ paths, (∃ f ∈ sampleFolders.folders, (f.path == q) = true) →
      sampleFoldersDisk.Removable q) ∧
    (Registry.finish sampleFoldersDisk sampleFolders paths).2.folders =
      sampleFolders.folders.map (Folder.judged sampleFoldersDisk paths) ∧
    sampleFolders.folders.map (fun f => (f.judged sampleFoldersDisk paths).state) =
      [.finishedSuccessfully, .finishedUnsuccessfully, .finishedSuccessfully] := by
  intro paths
  have hsep : sampleFolders.Separate sampleFoldersDisk :=
    separate_of_plain (by unfold Registry.Distinct; decide) (ne_link_of_entries (by decide))
      (by decide) (by decide)
  have hremovable : ∀ q ∈ paths, (∃ f ∈ sampleFolders.folders, (f.path == q) = true) →
      sampleFoldersDisk.Removable q := by
    intro q hq _ hempty
    simp only [paths, List.mem_cons, List.not_mem_nil, or_false] at hq
    rcases hq with rfl | rfl | rfl | rfl | rfl
    · have hfull : sampleFoldersDisk.isEmptyDirectory ⟨["rec", "voice1"]⟩ = .ok false := by cbv
      rw [hfull] at hempty
      cases hempty
    all_goals
      cbv
      intro hroot
      cases hroot
  exact ⟨hsep, hremovable, (finish_outcome hsep hremovable).2.1, by cbv⟩

end PushToTalk
