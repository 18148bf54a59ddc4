import PushToTalk.Proofs.Disk.Prepare
import PushToTalk.Proofs.Disk.Root

/-
  A way to the recordings that is cut and mended.

  The way to the recordings may lead through session folders, which come and go.  While one of them
  is gone the root leads nowhere, and nothing is done at all, until the recorder makes the missing
  directories again.  As long as the way goes along no link in a session folder, it leads then where
  it led before: the recordings of all sessions stay in one directory.  This is less than `Grounded`
  asks for, and it is enough for what `Relay.Spared` says of starts.

  1. **The planned way** — `Steady` remembers the way by a disk on which it was whole; here some of
     its directories may be missing.  So at any time the way is whole, or the root leads nowhere
     (`Steady.cases`), and if it is mended it cannot but be the old one.

  2. **Taking away and adding** — what is taken away in a session folder can cut the way at
     directories only, as no link of the way lies there (`Steady.shrink`); new directories mend it
     (`Steady.grow`); and what else is put on the disk stands where no directory is (`Direct.put`).

  3. **The operations of a run** — each of them is one of these three, or finds no way and does
     nothing.

  4. **The start of a session**, and what it leaves alone (`Steady.start_keeps`).

  5. **From the beginning** — disks on which all this holds at first (`Firm`, `firm_of_plain`), and
     the state of a run before there is a way (`Anchored`).

  Main statements: `Steady.start`, `Steady.start_keeps`, `Anchored.start` and `firm_of_plain`.
-/

namespace PushToTalk.Disk

open PushToTalk.Path (IsPlain)

variable {root : Path} {base u : Place} {d d' d₀ : Disk} {m n : Nat} {name : String} {node : Node}

/-! ## The planned way -/

/-- The way to the recordings is whole, and goes along no link in a session folder. -/
structure Direct (root : Path) (base : Place) (d : Disk) : Prop where
  tree : d.IsTree
  noLink : ∀ n target, d.at? (base ++ [sessionName n]) ≠ some (.link target)
  way : ∃ links trail, d.Leads linkLimit [] root.front links base trail ∧
    ∀ v ∈ trail, ∀ target, d.at? v = some (.link target) → Apart base v

/-- On some other disk the way to the recordings was whole; here some of its directories may be
missing. -/
structure Steady (root : Path) (base : Place) (d : Disk) : Prop where
  tree : d.IsTree
  noLink : ∀ n target, d.at? (base ++ [sessionName n]) ≠ some (.link target)
  way : ∃ plan : Disk, ∃ links trail, plan.Leads linkLimit [] root.front links base trail ∧
    (∀ v ∈ trail, ∀ target, plan.at? v = some (.link target) → Apart base v) ∧
    ∀ v ∈ trail, SameAt plan d v ∨ plan.at? v = some .directory ∧ d.at? v = none

/-- A way that is whole is its own plan. -/
theorem Direct.steady (h : Direct root base d) : Steady root base d where
  tree := h.tree
  noLink := h.noLink
  way := by
    obtain ⟨links, trail, hl, hapart⟩ := h.way
    exact ⟨d, links, trail, hl, hapart, fun v _ => Or.inl rfl⟩

/-- A way that is whole leads to the directory of the recordings. -/
theorem Direct.reached (h : Direct root base d) : Reached root base d where
  goal := by
    obtain ⟨links, trail, hl, -⟩ := h.way
    exact hl.goal_directory h.tree (at?_nil d)
  way := by
    obtain ⟨links, trail, hl, -⟩ := h.way
    exact ⟨links, trail, hl⟩
  noLink := h.noLink

/-- Along a way that is whole, a session folder's path leads to its entry. -/
theorem Direct.resolveEntry (h : Direct root base d) (n : Nat) :
    d.resolveEntry (sessionFolder root n) = .ok (base ++ [sessionName n]) :=
  h.reached.walk_session false n

/-- The way is whole, or the root leads nowhere. -/
theorem Steady.cases (h : Steady root base d) : Direct root base d ∨ Unled root d := by
  obtain ⟨plan, links, trail, hl, hapart, hkept⟩ := h.way
  rcases hl.cut (sameAt_root plan d) (fun v hv => (hkept v hv).imp_right And.right) with
    hl' | hcut
  · refine Or.inl ⟨h.tree, h.noLink, links, trail, hl', fun v hv target hlink => ?_⟩
    rcases hkept v hv with hsame | ⟨-, hnone⟩
    · exact hapart v hv target (hsame.symm.trans hlink)
    · rw [hnone] at hlink
      cases hlink
  · -- another way would go on to some directory, where a dot can be walked
    refine Or.inr fun links' goal trail' hl' => ?_
    have hdot := hcut true ["."] (List.cons_ne_nil _ _)
    rw [walk_of_leads hl' true (List.cons_ne_nil _ _),
      walk_idle (hl'.goal_directory h.tree (at?_nil d)) (by decide), walk_nil] at hdot
    cases hdot

/-! ## Taking away and adding -/

/-- The way is at most cut where only something in a session folder is taken away. -/
theorem Steady.shrink (h : Steady root base d) (hw : Within d' d) (hc : ChangesOnly base n d d')
    (ht : d'.IsTree) : Steady root base d' where
  tree := ht
  noLink m target hn := h.noLink m target (hw _ _ hn)
  way := by
    obtain ⟨plan, links, trail, hl, hapart, hkept⟩ := h.way
    refine ⟨plan, links, trail, hl, hapart, fun v hv => ?_⟩
    rcases hkept v hv with hsame | ⟨hdir, hnone⟩
    · rcases hl.node_of_mem hv with hdir | ⟨target, hlink⟩
      · rcases hw.sameAt_or_none v with hsame' | hnone
        · exact Or.inl (hsame'.trans hsame)
        · exact Or.inr ⟨hdir, hnone⟩
      · exact Or.inl ((hc v (hapart v hv target hlink n)).trans hsame)
    · refine Or.inr ⟨hdir, ?_⟩
      cases hn : d'.at? v with
      | none => rfl
      | some node => exact absurd (hw v node hn) (by rw [hnone]; exact fun e => by cases e)

/-- New directories are in nobody's way, wherever they are made. -/
theorem Steady.grow (h : Steady root base d) (he : Extends d d') (ht : d'.IsTree) :
    Steady root base d' where
  tree := ht
  noLink m target hn := by
    rcases he.added hn with hold | hdir
    · exact h.noLink m target hold
    · cases hdir
  way := by
    obtain ⟨plan, links, trail, hl, hapart, hkept⟩ := h.way
    refine ⟨plan, links, trail, hl, hapart, fun v hv => ?_⟩
    rcases hkept v hv with hsame | ⟨hdir, hnone⟩
    · rcases hl.node_of_mem hv with hn | ⟨target, hn⟩
      · exact Or.inl ((he.kept (hsame.trans hn)).trans hn.symm)
      · exact Or.inl ((he.kept (hsame.trans hn)).trans hn.symm)
    · cases hn : d'.at? v with
      | none => exact Or.inr ⟨hdir, rfl⟩
      | some node =>
        -- what was missing can only be a directory again
        rcases he.added hn with hold | rfl
        · rw [hnone] at hold
          cases hold
        · exact Or.inl (hn.trans hdir.symm)

/-- What is put where no directory is, and no link of the way, leaves the way whole. -/
theorem Direct.put (h : Direct root base d) {place : Place}
    (hplace : d.at? place = some .directory) (hn : d.at? (place ++ [name]) ≠ some .directory)
    (hoff : ∀ target, d.at? (place ++ [name]) = some (.link target) →
      ¬ Apart base (place ++ [name]))
    (hl : ∀ m target, (d.set (place ++ [name]) node).at? (base ++ [sessionName m]) ≠
      some (.link target)) : Direct root base (d.set (place ++ [name]) node) where
  tree := h.tree.set hplace (Or.inr hn)
  noLink := hl
  way := by
    obtain ⟨links, trail, hleads, hapart⟩ := h.way
    have hsame : ∀ v ∈ trail, (d.set (place ++ [name]) node).at? v = d.at? v := by
      intro v hv
      rw [at?_set, if_neg]
      rintro rfl
      rcases hleads.node_of_mem hv with hdir | ⟨target, hlink⟩
      · exact hn hdir
      · exact hoff target hlink (hapart _ hv target hlink)
    exact ⟨links, trail, hleads.congr hsame, fun v hv target hlink =>
      hapart v hv target ((hsame v hv).symm.trans hlink)⟩

/-! ## What a run does -/

/-- An entry that the recorder makes leaves the way as it is. -/
theorem Steady.make (h : Steady root base d)
    (hm : d.make ((sessionFolder root n).child name) node = .ok d') : Steady root base d' := by
  rcases h.cases with hd | hu
  swap
  · rwa [(keepsTo_make hm).unled hu]
  obtain ⟨-, hfolder, rfl, hn⟩ := hd.reached.make_eq_ok hm
  refine (hd.put hfolder hn (fun target _ hapart => ?_) fun m target => ?_).steady
  · exact hapart n (List.prefix_append _ _)
  · rw [at?_set, if_neg (by simp)]
    exact h.noLink m target

/-- A worker that deletes a file leaves the way as it is, or cuts it. -/
theorem Steady.delete {s : Station} (h : Steady root base s.disk) (hp : IsPlain name) :
    Steady root base (s.delete ((sessionFolder root n).child name)).disk := by
  rcases h.cases with hd | hu
  swap
  · rwa [(keepsTo_delete s hp).unled hu]
  unfold Station.delete
  cases hr : s.disk.removeFile ((sessionFolder root n).child name) with
  | error trouble => exact h
  | ok disk =>
    obtain ⟨-, rfl, hn⟩ := hd.reached.removeFile_eq_ok hp hr
    exact h.shrink (within_clear s.disk _) (changesOnly_clear base n s.disk name)
      (h.tree.clear (h.tree.none_below hn))

/-- A job that is done with a folder leaves the way as it is, or cuts it. -/
theorem Steady.judge (h : Steady root base d) (n : Nat) (reg : Registry) :
    Steady root base (Registry.finishOne (d, reg) (sessionFolder root n)).1 := by
  rcases finishOne_disk_cases d reg (sessionFolder root n) with he | ⟨v, -, hv, hempty, he⟩
  · rwa [he]
  rw [he]
  rcases h.cases with hd | hu
  · obtain rfl := Except.ok.inj ((hd.reached.walk_session true n).symm.trans
      (directoryOf_eq_ok_iff.1 hv).1)
    refine h.shrink (n := n) (within_clear d _) (fun v hv => ?_)
      (h.tree.clear (at?_of_entriesAt_nil hempty))
    rw [at?_clear, if_neg]
    rintro rfl
    exact hv (List.prefix_refl _)
  · exact absurd (directoryOf_eq_ok_iff.1 hv).1 (hu.resolve_ne_ok n v)

/-! ## The start of a session -/

/-- Only what lies in the new session's folder is taken away before it starts. -/
theorem Steady.prepare_changesOnly (h : Steady root base d) (n : Nat) :
    ChangesOnly base n d (d.prepare (sessionFolder root n)) := by
  rcases h.cases with hd | hu
  · intro u hu
    refine (prepares d _).outside fun v hv => ?_
    rwa [Except.ok.inj (hv.symm.trans (hd.resolveEntry n))]
  · rw [hu.prepare n]
    exact ChangesOnly.refl base n d

/-- Preparing a session folder leaves the way as it is, or cuts it. -/
theorem Steady.prepare (h : Steady root base d) (n : Nat) :
    Steady root base (d.prepare (sessionFolder root n)) :=
  h.shrink (prepares d _).within (h.prepare_changesOnly n) ((prepares d _).isTree h.tree)

/-- Making directories, for whatever path, leaves the way as it is, or mends it. -/
theorem Steady.makeDirectories {p : Path} (h : Steady root base d)
    (hm : d.makeDirectories p = .ok d') : Steady root base d' := by
  obtain ⟨hext, htree⟩ := makeDirectories_extends h.tree hm
  exact h.grow hext htree

/-- What the recorder drops at once is in nobody's way. -/
theorem Steady.drop (h : Steady root base d) (n : Nat) (name : String) :
    Steady root base (Recorder.drop (sessionFolder root n) d name) := by
  unfold Recorder.drop
  split
  swap
  · exact h
  next disk hw =>
  rcases h.cases with hd | hu
  · obtain ⟨place, name', rfl, hplace, hdir, hlink⟩ := write_eq_ok h.tree hw
    refine (hd.put hplace hdir (fun target hn => absurd hn (hlink target))
      fun m target hm => ?_).steady
    rw [at?_set] at hm
    split at hm
    · cases hm
    · exact h.noLink m target hm
  · obtain ⟨trouble, hw'⟩ := hu.walk_entry true n name
    rw [write_of_error hw'] at hw
    cases hw

/-- Whatever stands somewhere still does when something is dropped, though a file may have been
written over. -/
theorem Steady.drop_keeps (h : Steady root base d) (n : Nat) (name : String)
    (hu : d.at? u ≠ none) : (Recorder.drop (sessionFolder root n) d name).at? u ≠ none := by
  unfold Recorder.drop
  split
  swap
  · exact hu
  next disk hw =>
  obtain ⟨place, name', rfl, -⟩ := write_eq_ok h.tree hw
  rw [at?_set]
  split
  · exact Option.some_ne_none _
  · exact hu

/-- All that the recorder drops is in nobody's way, and takes nothing away. -/
theorem Steady.drops (h : Steady root base d) (n : Nat) (names : List String) :
    Steady root base (names.foldl (Recorder.drop (sessionFolder root n)) d) ∧ ∀ u, d.at? u ≠ none →
      (names.foldl (Recorder.drop (sessionFolder root n)) d).at? u ≠ none := by
  induction names generalizing d with
  | nil => exact ⟨h, fun u hu => hu⟩
  | cons name later ih =>
    obtain ⟨hs, hkept⟩ := ih (h.drop n name)
    exact ⟨hs, fun u hu => hkept u (h.drop_keeps n name hu)⟩

/-- The disk on which the recorder has made a session's folder, or has failed to. -/
theorem Steady.made (h : Steady root base d) (p : Path) :
    Steady root base (match d.makeDirectories p with | .ok d' => d' | .error _ => d) ∧
      Extends d (match d.makeDirectories p with | .ok d' => d' | .error _ => d) := by
  split
  · next d' hm => exact ⟨h.makeDirectories hm, (makeDirectories_extends h.tree hm).1⟩
  · exact ⟨h, Extends.refl d⟩

/-- The recorder starts in a folder that was prepared. -/
theorem Steady.start (h : Steady root base d) (r : Recorder) (n : Nat) :
    Steady root base
      (r.onDisk (d.prepare (sessionFolder root n)) (.start (sessionFolder root n))) :=
  (((h.prepare n).made (sessionFolder root n)).1.drops n r.drops).1

/-- A session folder has nothing in common with those of other sessions. -/
theorem not_prefix_of_session (hmn : m ≠ n) (hu : base ++ [sessionName m] <+: u) :
    ¬ base ++ [sessionName n] <+: u := by
  obtain ⟨later, rfl⟩ := hu
  rw [List.append_assoc]
  exact not_prefix_session base hmn later

/-- The start of a session leaves what lies in the folders of others, but for what the recorder
may write over. -/
theorem Steady.start_keeps (h : Steady root base d) (r : Recorder) (hmn : m ≠ n)
    (hu : base ++ [sessionName m] <+: u) (ha : d.at? u = some node) :
    (d.prepare (sessionFolder root n)).at? u = some node ∧
      ∃ node', (r.onDisk (d.prepare (sessionFolder root n)) (.start (sessionFolder root n))).at? u =
        some node' ∧ (r.drops = [] → node' = node) := by
  have hprepared : (d.prepare (sessionFolder root n)).at? u = some node :=
    (h.prepare_changesOnly n u (not_prefix_of_session hmn hu)).trans ha
  obtain ⟨hsteady, hext⟩ := (h.prepare n).made (sessionFolder root n)
  have hmade := hext.kept hprepared
  obtain ⟨node', hnode'⟩ := Option.ne_none_iff_exists'.1
    ((hsteady.drops n r.drops).2 u (by rw [hmade]; exact Option.some_ne_none _))
  refine ⟨hprepared, node', hnode', fun hdrops => ?_⟩
  rw [hdrops] at hnode'
  exact Option.some.inj (hnode'.symm.trans hmade)

/-! ## From the beginning -/

/-- Recordings can be kept below the root: wherever it leads to once it is made, it goes along no
link in a session folder, and no session folder is a link. -/
structure Firm (root : Path) (d : Disk) : Prop where
  tree : d.IsTree
  apart : ∀ d' links base trail, d.makeDirectories ⟨root.front⟩ = .ok d' →
    d'.Leads linkLimit [] root.front links base trail →
    ∀ v ∈ trail, ∀ target, d'.at? v = some (.link target) → Apart base v
  noLink : ∀ d' links base trail, d.makeDirectories ⟨root.front⟩ = .ok d' →
    d'.Leads linkLimit [] root.front links base trail →
    ∀ n target, d'.at? (base ++ [sessionName n]) ≠ some (.link target)

/-- A disk without links is fit for any root. -/
theorem firm_of_plain (ht : d.IsTree) (hlinks : ∀ v target, d.at? v ≠ some (.link target)) :
    Firm root d := by
  -- making the way to the root makes no links
  have hmade : ∀ d', d.makeDirectories ⟨root.front⟩ = .ok d' →
      ∀ v target, d'.at? v ≠ some (.link target) := by
    intro d' hm v target hv
    rcases (makeDirectories_extends ht hm).1.added hv with hold | hdir
    · exact hlinks v target hold
    · cases hdir
  exact ⟨ht, fun d' _ _ _ hm _ v _ target hv => absurd hv (hmade d' hm v target),
    fun d' _ _ _ hm _ n target => hmade d' hm _ target⟩

/-- With the way made, a root that is firm leads along no link in a session folder. -/
theorem Firm.direct (h : Firm root d₀) (hm : d₀.makeDirectories ⟨root.front⟩ = .ok d)
    (ht : d.IsTree) {links : Nat} {trail : List Place}
    (hl : d.Leads linkLimit [] root.front links base trail) : Direct root base d where
  tree := ht
  noLink := h.noLink d links base trail hm hl
  way := ⟨links, trail, hl, h.apart d links base trail hm hl⟩

/-- Either nothing has happened to the disk and the root leads nowhere, or the way to the
recordings is there, or planned. -/
def Anchored (root : Path) (d₀ d : Disk) : Prop :=
  (d = d₀ ∧ Unled root d₀) ∨ ∃ base, Steady root base d

/-- A root that is firm is anchored on the disk that the relay finds. -/
theorem anchored_self (h : Firm root d₀) : Anchored root d₀ d₀ := by
  by_cases hu : Unled root d₀
  · exact Or.inl ⟨rfl, hu⟩
  · obtain ⟨links, base, trail, hl⟩ : ∃ links base trail,
        d₀.Leads linkLimit [] root.front links base trail := by
      simpa [Unled] using hu
    exact Or.inr ⟨base, (h.direct (hl.makeDirectories h.tree) h.tree hl).steady⟩

/-- What does nothing where there is no way, and keeps a way steady, leaves the root anchored. -/
theorem Anchored.keeps (h : Anchored root d₀ d) (hu : Unled root d → d' = d)
    (hs : ∀ base, Steady root base d → Steady root base d') : Anchored root d₀ d' := by
  rcases h with ⟨rfl, hunled⟩ | ⟨base, hsteady⟩
  · exact Or.inl ⟨hu hunled, hunled⟩
  · exact Or.inr ⟨base, hs base hsteady⟩

/-- The start of a session finds the way to the root, or makes it, or leaves all as it is. -/
theorem Anchored.start (h : Anchored root d₀ d) (hf : Firm root d₀) (r : Recorder) (n : Nat) :
    Anchored root d₀
      (r.onDisk (d.prepare (sessionFolder root n)) (.start (sessionFolder root n))) := by
  rcases h with ⟨rfl, hu⟩ | ⟨base, hs⟩
  swap
  · exact Or.inr ⟨base, hs.start r n⟩
  rw [hu.prepare n]
  unfold Recorder.onDisk
  dsimp only
  cases hm : d.makeDirectories (sessionFolder root n) with
  | error trouble =>
    refine Or.inl ⟨?_, hu⟩
    exact drops_of_error fun name => hu.walk_entry true n name
  | ok d₂ =>
    obtain ⟨d₁, links, base, trail, hmade, htree, hl, hm₁⟩ := makeDirectories_session hf.tree hm
    exact Or.inr ⟨base,
      (((hf.direct hmade htree hl).steady.makeDirectories hm₁).drops n r.drops).1⟩

end PushToTalk.Disk
