import PushToTalk.Proofs.Disk.Session

/-
  The recordings root over the whole run of a relay.

  Most of what is said about session folders is said of disks on which the root leads somewhere, and
  past the session folders (`Rooted`).  But the root need not be there when the relay starts: the
  recorder makes it with the first session folder.  Until then nothing that the relay does has any
  effect on the disk, and from then on the way to the root stays.  So what has to be asked of the
  disk that the relay finds is not that the root leads somewhere, but where it will lead once it is
  made.

  1. **`Suits`** — wherever the root leads to once it is made, it leads there past all session
     folders, and none of them is a link.  A root that never goes up suits any disk without links
     (`suits_of_plain`).

  2. **`Grounded`** — either nothing has happened to the disk and the root leads nowhere, or there
     is a way.  It holds at the beginning, is kept by whatever keeps to one session folder, and by
     the start of a session.

  3. **The start** — whoever makes a session folder makes the way to the root first
     (`makeDirectories_session`).  What the recorder writes meanwhile is in nobody's way, since a
     way looks at directories and links only (`Rooted.write`).

  Main statements: `suits_of_plain`, `grounded_self`, `Grounded.keeps` and `Grounded.start`.
-/

namespace PushToTalk.Disk

variable {root : Path} {base : Place} {d d' d₀ : Disk} {n : Nat}

/-- Recordings can be kept below the root: wherever it leads to once it is made, it leads there
past all session folders, and none of them is a link. -/
structure Suits (root : Path) (d : Disk) : Prop where
  tree : d.IsTree
  past : ∀ d' links base trail, d.makeDirectories ⟨root.front⟩ = .ok d' →
    d'.Leads linkLimit [] root.front links base trail → ∀ v ∈ trail, Apart base v
  noLink : ∀ d' links base trail, d.makeDirectories ⟨root.front⟩ = .ok d' →
    d'.Leads linkLimit [] root.front links base trail →
    ∀ n target, d'.at? (base ++ [sessionName n]) ≠ some (.link target)

/-- Where there are no links, a way that never goes up looks only at what lies above its goal. -/
theorem Leads.above {links links' : Nat} {place goal : Place} {pieces : List String}
    {trail : List Place} (h : Leads d links place pieces links' goal trail)
    (hup : ".." ∉ pieces) (hlinks : ∀ v target, d.at? v ≠ some (.link target)) :
    place <+: goal ∧ ∀ v ∈ trail, v <+: goal := by
  induction h with
  | nil => exact ⟨List.prefix_refl _, fun v hv => absurd hv List.not_mem_nil⟩
  | idle _ _ _ ih =>
    obtain ⟨hplace, htrail⟩ := ih fun hm => hup (List.mem_cons_of_mem _ hm)
    refine ⟨hplace, fun v hv => ?_⟩
    rcases List.mem_cons.1 hv with rfl | hv
    · exact hplace
    · exact htrail v hv
  | up => exact absurd List.mem_cons_self hup
  | down _ _ _ _ ih =>
    obtain ⟨hplace, htrail⟩ := ih fun hm => hup (List.mem_cons_of_mem _ hm)
    have habove := (List.prefix_append _ _).trans hplace
    refine ⟨habove, fun v hv => ?_⟩
    rcases List.mem_cons.1 hv with rfl | hv
    · exact habove
    rcases List.mem_cons.1 hv with rfl | hv
    · exact hplace
    · exact htrail v hv
  | follow _ _ hn _ _ => exact absurd hn (hlinks _ _)

/-- A root that never goes up suits a disk without links. -/
theorem suits_of_plain (ht : d.IsTree) (hup : ".." ∉ root.front)
    (hlinks : ∀ v target, d.at? v ≠ some (.link target)) : Suits root d := by
  -- making the way to the root makes no links
  have hmade : ∀ d', d.makeDirectories ⟨root.front⟩ = .ok d' →
      ∀ v target, d'.at? v ≠ some (.link target) := by
    intro d' hm v target hv
    rcases (makeDirectories_extends ht hm).1.added hv with hold | hdir
    · exact hlinks v target hold
    · cases hdir
  refine ⟨ht, fun d' links base trail hm hl v hv n hp => ?_, fun d' _ _ _ hm _ n target => ?_⟩
  · have habove := (hl.above hup (hmade d' hm)).2 v hv
    exact not_prefix_base base n (hp.trans habove)
  · exact hmade d' hm _ target

/-- Either nothing has happened to the disk and the root leads nowhere, or there is a way. -/
def Grounded (root : Path) (d₀ d : Disk) : Prop :=
  (d = d₀ ∧ Unled root d₀) ∨ ∃ base, Rooted root base d

/-- With the way made, a root that suits leads past the session folders. -/
theorem Suits.rooted (h : Suits root d₀) (hm : d₀.makeDirectories ⟨root.front⟩ = .ok d)
    (ht : d.IsTree) {links : Nat} {trail : List Place}
    (hl : d.Leads linkLimit [] root.front links base trail) : Rooted root base d where
  tree := ht
  goal := hl.goal_directory ht (at?_nil d)
  way := ⟨links, trail, hl, h.past d links base trail hm hl⟩
  noLink := h.noLink d links base trail hm hl

/-- Where there is a way already, making it changes nothing. -/
theorem Leads.makeDirectories {links : Nat} {trail : List Place}
    (h : d.Leads linkLimit [] root.front links base trail) (ht : d.IsTree) :
    d.makeDirectories ⟨root.front⟩ = .ok d := by
  unfold Disk.makeDirectories
  rw [← List.append_nil root.front, makeAlong_of_leads h (Nat.zero_le _), makeAlong,
    isDirectoryAt_iff.2 (h.goal_directory ht (at?_nil d))]
  rfl

/-- Whoever makes a session folder makes the way to the root first, and then the folder. -/
theorem makeDirectories_session (ht : d.IsTree)
    (hm : d.makeDirectories (sessionFolder root n) = .ok d') :
    ∃ d₁ links base trail, d.makeDirectories ⟨root.front⟩ = .ok d₁ ∧ d₁.IsTree ∧
      d₁.Leads linkLimit [] root.front links base trail ∧
      d₁.makeDirectories (sessionFolder root n) = .ok d' := by
  unfold makeDirectories at hm ⊢
  rw [pieces_session] at hm
  obtain ⟨d₁, links, base, trail, hmade, htree, -, hl, hlast⟩ :=
    makeAlong_front linkLimit 0 d [] root.front [sessionName n] (Nat.zero_le _) ht hm
  refine ⟨d₁, links, base, trail, hmade, htree, hl, ?_⟩
  rw [pieces_session, makeAlong_of_leads hl (Nat.zero_le _), ← hlast, hm]

/-- A root that suits is grounded on the disk that the relay finds. -/
theorem grounded_self (h : Suits root d₀) : Grounded root d₀ d₀ := by
  by_cases hu : Unled root d₀
  · exact Or.inl ⟨rfl, hu⟩
  · obtain ⟨links, base, trail, hl⟩ : ∃ links base trail,
        d₀.Leads linkLimit [] root.front links base trail := by
      simpa [Unled] using hu
    exact Or.inr ⟨base, h.rooted (hl.makeDirectories h.tree) h.tree hl⟩

/-- Whoever keeps to one session folder leaves the root grounded. -/
theorem Grounded.keeps (h : Grounded root d₀ d) (hk : KeepsTo root n d d') :
    Grounded root d₀ d' := by
  rcases h with ⟨rfl, hu⟩ | ⟨base, hr⟩
  · exact Or.inl ⟨hk.unled hu, hu⟩
  · exact Or.inr ⟨base, (hk.rooted base hr).1⟩

/-- A file is written where neither a directory nor a link stands. -/
theorem write_eq_ok {p : Path} {bytes : Bytes} (ht : d.IsTree) (hw : d.write p bytes = .ok d') :
    ∃ place name, d' = d.set (place ++ [name]) (.file bytes) ∧
      d.at? place = some .directory ∧ d.at? (place ++ [name]) ≠ some .directory ∧
      ∀ target, d.at? (place ++ [name]) ≠ some (.link target) := by
  cases hv : d.walk true linkLimit [] p.pieces with
  | error trouble =>
    rw [write_of_error hv] at hw
    cases hw
  | ok v =>
    rw [write_of_walk hv] at hw
    rcases walk_end ht _ _ _ (at?_nil d) hv with hdir | ⟨place, name, rfl, hplace, hlink⟩
    · simp only [hdir] at hw
      cases hw
    split at hw
    · cases hw
    next hnot => exact ⟨place, name, (Except.ok.inj hw).symm, hplace, hnot, hlink⟩

/-- A file that is written anywhere is in nobody's way. -/
theorem Rooted.write (h : Rooted root base d) {p : Path} {bytes : Bytes}
    (hw : d.write p bytes = .ok d') : Rooted root base d' := by
  obtain ⟨place, name, rfl, hplace, hnot, hlink⟩ := write_eq_ok h.tree hw
  -- the way looks at directories and links only, and neither stands at the place of the file
  have hother : ∀ v, d.at? v = some .directory ∨ (∃ target, d.at? v = some (.link target)) →
      (d.set (place ++ [name]) (.file bytes)).at? v = d.at? v := by
    intro v hv
    rw [at?_set, if_neg]
    rintro rfl
    rcases hv with hv | ⟨target, hv⟩
    · exact hnot hv
    · exact hlink target hv
  obtain ⟨links, trail, hleads, hapart⟩ := h.way
  refine ⟨h.tree.set hplace (Or.inr hnot), ?_, ?_, ?_⟩
  · rw [hother base (Or.inl h.goal), h.goal]
  · exact ⟨links, trail, hleads.congr fun v hv => hother v (hleads.node_of_mem hv), hapart⟩
  · intro m target hm
    rw [at?_set] at hm
    split at hm
    · cases hm
    · exact h.noLink m target hm

/-- The files that a recorder drops as it starts are in nobody's way. -/
theorem Rooted.drops (h : Rooted root base d) (folder : Path) (names : List String) :
    Rooted root base (names.foldl (Recorder.drop folder) d) := by
  induction names generalizing d with
  | nil => exact h
  | cons name later ih =>
    refine ih ?_
    unfold Recorder.drop
    split
    · next hw => exact h.write hw
    · exact h

/-- A session folder that is made is in nobody's way. -/
theorem Rooted.makeDirectories_ok (h : Rooted root base d)
    (hm : d.makeDirectories (sessionFolder root n) = .ok d') : Rooted root base d' := by
  rw [h.makeDirectories n] at hm
  split at hm
  · obtain rfl := Except.ok.inj hm
    exact (h.set_session n).1
  · obtain rfl := Except.ok.inj hm
    exact h
  · cases hm

/-- The start of a session finds the way to the root, or makes it, or leaves all as it is. -/
theorem Grounded.start (h : Grounded root d₀ d) (hs : Suits root d₀) (r : Recorder) (n : Nat) :
    Grounded root d₀
      (r.onDisk (d.prepare (sessionFolder root n)) (.start (sessionFolder root n))) := by
  rcases h with ⟨rfl, hu⟩ | ⟨base, hr⟩
  swap
  · exact Or.inr ⟨base, (rooted_start hr r n).1⟩
  rw [hu.prepare n]
  unfold Recorder.onDisk
  dsimp only
  cases hm : d.makeDirectories (sessionFolder root n) with
  | error trouble =>
    refine Or.inl ⟨?_, hu⟩
    exact drops_of_error fun name => hu.walk_entry true n name
  | ok d₂ =>
    -- from the way on the root suits
    obtain ⟨d₁, links, base, trail, hmade, htree, hl, hm₁⟩ := makeDirectories_session hs.tree hm
    have hr : Rooted root base d₁ := hs.rooted hmade htree hl
    exact Or.inr ⟨base, (hr.makeDirectories_ok hm₁).drops _ _⟩

end PushToTalk.Disk
