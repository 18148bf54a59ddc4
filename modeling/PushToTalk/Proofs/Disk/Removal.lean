import Mathlib.Data.List.Induction
import PushToTalk.Proofs.Disk.Session
import PushToTalk.Proofs.Disk.Way

/-
  Taking things away.

  A worker deletes the file that it has delivered, and whoever is done with a folder removes its
  directory if nothing is left in it.  Either way one entry of one directory goes, and the disk that
  is left lies within the one before: whoever still gets to something has got there before.  The
  question is always the same one, what else the deletion has taken away.  It cannot be answered by
  looking at paths, for two paths may lead to one file, and a path may lead through a link that is
  deleted.  It is answered by looking at ways.

  1. **Disks within disks.**  `d.without gone` is the disk without what stood at the places `gone`;
     deletions in any order come to that.  A walk that ends at something on the smaller disk ends
     there on the fuller one (`walk_within`), so a deletion makes nothing lead anywhere new.
  2. **Files.**  The entry that goes when a file is deleted is the file itself or a link to it
     (`walk_entry_cases`); what can be read can be deleted (`removeFile_of_read`), and the last name
     of the path is the name of the entry (`walk_entry_name`), which is how a worker knows it.
  3. **Reading beside a deletion.**  All other files can still be read (`read_clear_iff`).  The
     proof is by contradiction: a way that comes past the deleted entry ends there or goes on along
     the link to the same file, and that is the case which the hypothesis excludes.
  4. **Directories.**  What goes when a folder is removed is an empty directory to which its path
     leads (`removeDirectory_eq_ok`).  From this follow the verdict on a folder (`settle_cases`) and
     what a job takes away that is done with many (`finish_takes`).

  Folders that other paths lead to may vanish with one that is removed, but only if those paths lead
  to the same directory; `finish_takes` names the directories, not the paths, for that reason.

  Main statements: `walk_within`, `removeFile_of_read`, `read_clear_iff`, `settle_cases` and
  `finish_takes`.
-/

namespace PushToTalk.Disk

open PushToTalk.Path (IsPlain)

variable {d d' d₀ : Disk} {links : Nat} {place u v : Place} {pieces : List String} {p : Path}
  {bytes : Bytes} {gone : List Place}

/-! ## Disks within disks -/

/-- The disk without what stands at the given places. -/
def without (d : Disk) (gone : List Place) : Disk :=
  ⟨⟨d.nodes.entries.filter fun e => !gone.contains e.1⟩⟩

/-- Nothing taken away leaves the disk as it is. -/
theorem without_nil (d : Disk) : d.without [] = d := by
  simp [without]

/-- What is taken away in two goes could have been taken away at once. -/
theorem without_without (d : Disk) (gone gone' : List Place) :
    (d.without gone).without gone' = d.without (gone ++ gone') := by
  unfold without
  rw [List.filter_filter]
  congr 3
  funext e
  simp [Bool.and_comm]

/-- What is left does not hang on the order in which the places are given, or on how often they
are. -/
theorem without_congr {gone' : List Place} (h : ∀ v, v ∈ gone ↔ v ∈ gone') :
    d.without gone = d.without gone' := by
  have hc : ∀ v, gone.contains v = gone'.contains v := fun v => by
    rw [Bool.eq_iff_iff, List.contains_iff_mem, List.contains_iff_mem, h]
  simp only [without, hc]

/-- The root cannot be taken away. -/
theorem at?_without (d : Disk) (gone : List Place) (v : Place) :
    (d.without gone).at? v = if v ∈ gone ∧ v ≠ [] then none else d.at? v := by
  rcases List.eq_nil_or_concat v with rfl | ⟨p, n, rfl⟩
  · simp [at?_nil]
  · rw [List.concat_eq_append, at?_concat, at?_concat]
    show (⟨d.nodes.entries.filter fun e => !gone.contains e.1⟩ : Table Place Node).get? _ = _
    rw [Table.get?_filter fun v => !gone.contains v]
    by_cases h : p ++ [n] ∈ gone <;> simp [h]

/-- Taking one entry away is a special case. -/
theorem clear_eq_without (d : Disk) (v : Place) : d.clear v = d.without [v] := by
  unfold without clear Table.erase
  congr 3
  funext e
  simp [beq_eq_decide]

/-- An entry that is taken away can be added to what has been taken away before. -/
theorem clear_without (d : Disk) (gone : List Place) (v : Place) :
    (d.without gone).clear v = d.without (gone ++ [v]) := by
  rw [clear_eq_without, without_without]

/-- Whatever stands on the first disk stands on the second, too. The order of disks by what has
been taken away from them. -/
def Within (d' d : Disk) : Prop := ∀ v node, d'.at? v = some node → d.at? v = some node

theorem Within.refl (d : Disk) : Within d d := fun _ _ h => h

/-- Taking away leaves less. -/
theorem within_without (d : Disk) (gone : List Place) : Within (d.without gone) d := by
  intro v node hv
  rw [at?_without] at hv
  split at hv
  · cases hv
  · exact hv

/-- Taking one entry away leaves less. -/
theorem within_clear (d : Disk) (v : Place) : Within (d.clear v) d :=
  clear_eq_without d v ▸ within_without d [v]

/-- Whoever gets to something on a disk gets there on a fuller one as well. The induction follows
the walk on the smaller disk; what it enters or follows is on the fuller one, too. A walk that
ends at nothing is another matter, since there the fuller disk may have something. -/
theorem walk_within (h : Within d' d) (follow : Bool) (links : Nat) (place : Place)
    (pieces : List String) (hw : d'.walk follow links place pieces = .ok v)
    (hv : d'.at? v ≠ none) : d.walk follow links place pieces = .ok v := by
  induction links, place, pieces using walk_induction d' with
  | nil links place => rwa [walk_nil] at hw ⊢
  | stuck links place piece rest hd =>
    rw [walk_stuck hd] at hw
    cases hw
  | idle links place piece rest hd hi ih =>
    rw [walk_idle hd hi] at hw
    rw [walk_idle (h _ _ hd) hi]
    exact ih hw
  | up links place rest hd ih =>
    rw [walk_up hd] at hw
    rw [walk_up (h _ _ hd)]
    exact ih hw
  | missing links place piece rest hd hplain hn =>
    rw [walk_missing hd hplain hn] at hw
    split at hw
    · exact absurd hn (Except.ok.inj hw ▸ hv)
    · cases hw
  | enter links place piece rest node hd hplain hn hl ih =>
    rw [walk_enter hd hplain hn hl] at hw
    rw [walk_enter (h _ _ hd) hplain (h _ _ hn) hl]
    exact ih hw
  -- the number of links that may be followed is the same on both disks
  | spent place piece rest target hd hplain hn =>
    by_cases hf : follow = true ∨ rest ≠ []
    · rw [walk_spent hd hplain hn hf] at hw
      cases hw
    · obtain ⟨rfl, rfl⟩ : follow = false ∧ rest = [] := by simpa using hf
      rw [walk_entry hd hplain hn] at hw
      rw [walk_entry (h _ _ hd) hplain (h _ _ hn), hw]
  | link links place piece rest target hd hplain hn ih =>
    by_cases hf : follow = true ∨ rest ≠ []
    · rw [walk_follow hd hplain hn hf] at hw
      rw [walk_follow (h _ _ hd) hplain (h _ _ hn) hf]
      exact ih hw
    · obtain ⟨rfl, rfl⟩ : follow = false ∧ rest = [] := by simpa using hf
      rw [walk_entry hd hplain hn] at hw
      rw [walk_entry (h _ _ hd) hplain (h _ _ hn), hw]

/-- Whatever a path leads to on a disk it leads to on a fuller one, links followed to the end. -/
theorem Within.resolve (h : Within d' d) (hw : d'.resolve p = .ok v) (hv : d'.at? v ≠ none) :
    d.resolve p = .ok v := walk_within h true linkLimit [] p.pieces hw hv

/-- The entry that a path leads to on a disk is the one it leads to on a fuller one, where the
last link is not followed. -/
theorem Within.resolveEntry (h : Within d' d) (hw : d'.resolveEntry p = .ok v)
    (hv : d'.at? v ≠ none) : d.resolveEntry p = .ok v :=
  walk_within h false linkLimit [] p.pieces hw hv

/-! ## Files -/

/-- Whoever comes to something has come to an entry that is just that, or a link that leads
there. -/
theorem walk_entry_cases (links : Nat) (place : Place) (pieces : List String)
    (h : d.walk true links place pieces = .ok u) (hu : d.at? u ≠ none) :
    ∃ v, d.walk false links place pieces = .ok v ∧ (v = u ∨
      ∃ target links', d.at? v = some (.link target) ∧
        d.walk true links' (startOf target v.dropLast) target.pieces = .ok u) := by
  induction links, place, pieces using walk_induction d with
  | nil links place =>
    rw [walk_nil] at h ⊢
    exact ⟨u, h, Or.inl rfl⟩
  | stuck links place piece rest hd =>
    rw [walk_stuck hd] at h
    cases h
  | idle links place piece rest hd hi ih =>
    rw [walk_idle hd hi] at h ⊢
    exact ih h
  | up links place rest hd ih =>
    rw [walk_up hd] at h ⊢
    exact ih h
  | missing links place piece rest hd hplain hn =>
    rw [walk_missing hd hplain hn] at h
    split at h
    · exact absurd hn (Except.ok.inj h ▸ hu)
    · cases h
  | enter links place piece rest node hd hplain hn hl ih =>
    rw [walk_enter hd hplain hn hl] at h ⊢
    exact ih h
  | spent place piece rest target hd hplain hn =>
    rw [walk_spent hd hplain hn (Or.inl rfl)] at h
    cases h
  | link links place piece rest target hd hplain hn ih =>
    rw [walk_follow hd hplain hn (Or.inl rfl)] at h
    by_cases hr : rest = []
    · -- the link is the entry, and what is left of the walk goes along its target
      subst hr
      rw [List.append_nil] at h
      refine ⟨_, walk_entry hd hplain hn, Or.inr ⟨target, links, hn, ?_⟩⟩
      rwa [List.dropLast_concat]
    · rw [walk_follow hd hplain hn (Or.inr hr)]
      exact ih h

/-- A file is read exactly if the path leads to it, with its bytes. -/
theorem read_eq_ok_iff : d.read p = .ok bytes ↔
    ∃ u, d.resolve p = .ok u ∧ d.at? u = some (.file bytes) := by
  unfold read find
  cases hw : d.resolve p with
  | error trouble =>
    constructor
    · intro h
      cases h
    · rintro ⟨u, hu, -⟩
      cases hu
  | ok u =>
    dsimp only [bind, Except.bind]
    constructor
    · intro h
      refine ⟨u, rfl, ?_⟩
      -- of the four things that may stand there, only a file can be read
      cases hn : d.at? u with
      | none =>
        rw [hn] at h
        cases h
      | some node =>
        rw [hn] at h
        cases node with
        | file b => rw [Except.ok.inj h]
        | directory | link => cases h
    · rintro ⟨u', hu, hn⟩
      obtain rfl := Except.ok.inj hu
      rw [hn]

/-- What can be read after a deletion could be read before it, with the same bytes. -/
theorem Within.read (h : Within d' d) (hr : d'.read p = .ok bytes) : d.read p = .ok bytes := by
  obtain ⟨u, hu, hn⟩ := read_eq_ok_iff.1 hr
  exact read_eq_ok_iff.2 ⟨u, h.resolve hu (by rw [hn]; exact Option.some_ne_none _), h _ _ hn⟩

/-- An entry that is a file or a link stands at a place. These are the entries that can be
deleted one by one. -/
def HasEntry (d : Disk) (v : Place) : Prop := ∃ node, d.at? v = some node ∧ node ≠ .directory

/-- Something stands there. -/
theorem HasEntry.ne_none (h : d.HasEntry v) : d.at? v ≠ none := by
  obtain ⟨node, hn, -⟩ := h
  rw [hn]
  exact Option.some_ne_none _

/-- The root is a directory, so it is no such entry. -/
theorem HasEntry.ne_nil (h : d.HasEntry v) : v ≠ [] := by
  rintro rfl
  obtain ⟨node, hn, hdir⟩ := h
  rw [at?_nil] at hn
  exact hdir (Option.some.inj hn).symm

/-- What stands there after a deletion stood there before. -/
theorem HasEntry.within (h : d'.HasEntry v) (hd : Within d' d) : d.HasEntry v := by
  obtain ⟨node, hn, hdir⟩ := h
  exact ⟨node, hd _ _ hn, hdir⟩

/-- An entry that is no directory bears the last name of every path that it is reached by, behind
all links, slashes and dots in it. For a link in the middle of the path this is the last name of
what comes behind it. -/
theorem walk_entry_name (links : Nat) (place : Place) (pieces : List String)
    (h : d.walk false links place pieces = .ok v) (hv : d.HasEntry v)
    (hp : Above (fun u => d.at? u = some .directory) place) :
    ∃ name, IsPlain name ∧ pieces.getLast? = some name ∧ v.getLast? = some name := by
  induction links, place, pieces using walk_induction d with
  | nil links place =>
    rw [walk_nil] at h
    obtain ⟨node, hn, hdir⟩ := hv
    rw [← Except.ok.inj h, hp.here] at hn
    exact absurd (Option.some.inj hn).symm hdir
  -- the walk has come down through directories only
  | stuck links place piece rest hd => exact absurd hp.here hd
  | idle links place piece rest hd hi ih =>
    rw [walk_idle hd hi] at h
    obtain ⟨name, hplain, hlast, hend⟩ := ih h hp
    exact ⟨name, hplain, by rw [List.getLast?_cons, hlast]; rfl, hend⟩
  | up links place rest hd ih =>
    rw [walk_up hd] at h
    obtain ⟨name, hplain, hlast, hend⟩ := ih h hp.dropLast
    exact ⟨name, hplain, by rw [List.getLast?_cons, hlast]; rfl, hend⟩
  | missing links place piece rest hd hplain hn =>
    rw [walk_missing hd hplain hn] at h
    split at h
    · exact absurd hn (Except.ok.inj h ▸ hv.ne_none)
    · cases h
  | enter links place piece rest node hd hplain hn hl ih =>
    rw [walk_enter hd hplain hn hl] at h
    by_cases hdir : node = .directory
    · obtain ⟨name, hname, hlast, hend⟩ := ih h (hp.concat (hdir ▸ hn))
      exact ⟨name, hname, by rw [List.getLast?_cons, hlast]; rfl, hend⟩
    · -- from a file the walk cannot go on
      cases rest with
      | nil =>
        rw [walk_nil] at h
        exact ⟨piece, hplain, rfl, by rw [← Except.ok.inj h, List.getLast?_concat]⟩
      | cons next later =>
        rw [walk_stuck (by rw [hn]; exact fun e => hdir (Option.some.inj e))] at h
        cases h
  | spent place piece rest target hd hplain hn =>
    by_cases hr : rest = []
    · subst hr
      rw [walk_entry hd hplain hn] at h
      exact ⟨piece, hplain, rfl, by rw [← Except.ok.inj h, List.getLast?_concat]⟩
    · rw [walk_spent hd hplain hn (Or.inr hr)] at h
      cases h
  | link links place piece rest target hd hplain hn ih =>
    by_cases hr : rest = []
    · subst hr
      rw [walk_entry hd hplain hn] at h
      exact ⟨piece, hplain, rfl, by rw [← Except.ok.inj h, List.getLast?_concat]⟩
    · rw [walk_follow hd hplain hn (Or.inr hr)] at h
      obtain ⟨name, hname, hlast, hend⟩ := ih h (hp.startOf target)
      refine ⟨name, hname, ?_, hend⟩
      rw [List.getLast?_append_of_ne_nil _ hr] at hlast
      rw [List.getLast?_cons, hlast]
      rfl

/-- The file name of a path is the name of the entry that it leads to. That name is what says
whose recording it is, which therefore does not hang on the spelling of the path. -/
theorem fileName?_of_entry (h : d.resolveEntry p = .ok v) (hv : d.HasEntry v) :
    p.fileName? = v.getLast? := by
  obtain ⟨name, hplain, hlast, hend⟩ :=
    walk_entry_name linkLimit [] p.pieces h hv (above_nil (at?_nil d))
  rw [Path.fileName?_of_getLast hlast hplain, hend]

/-- What can be read can be deleted. The entry that goes is the one that the path names: the
file, or the link through which it was read. -/
theorem removeFile_of_read (h : d.read p = .ok bytes) :
    ∃ v, d.resolveEntry p = .ok v ∧ d.HasEntry v ∧ d.removeFile p = .ok (d.clear v) := by
  obtain ⟨u, hu, hn⟩ := read_eq_ok_iff.1 h
  obtain ⟨v, hv, hcases⟩ := walk_entry_cases linkLimit [] p.pieces hu
    (by rw [hn]; exact Option.some_ne_none _)
  have hentry : ∃ node, d.at? v = some node ∧ node ≠ .directory := by
    -- the file itself, or a link that leads to it
    rcases hcases with rfl | ⟨target, _, hl, -⟩
    · exact ⟨_, hn, Node.noConfusion⟩
    · exact ⟨_, hl, Node.noConfusion⟩
  refine ⟨v, hv, hentry, ?_⟩
  obtain ⟨node, hnode, hdir⟩ := hentry
  rw [removeFile_of_walk hv, hnode]
  cases node with
  | directory => exact absurd rfl hdir
  | file | link => rfl

/-! ## Reading beside a deletion -/

/-- Two paths lead to one file. Links make this possible for paths that are as different as one
likes. -/
def SameFile (d : Disk) (p q : Path) : Prop :=
  ∃ u bytes, d.resolve p = .ok u ∧ d.resolve q = .ok u ∧ d.at? u = some (.file bytes)

/-- Of two paths that lead to one file either can be named first. -/
theorem SameFile.symm {q : Path} (h : d.SameFile p q) : d.SameFile q p := by
  obtain ⟨u, bytes, hp, hq, hn⟩ := h
  exact ⟨u, bytes, hq, hp, hn⟩

/-- Two paths that lead to one file after a deletion have done so before. -/
theorem Within.sameFile {q : Path} (h : Within d' d) (hs : d'.SameFile p q) : d.SameFile p q := by
  obtain ⟨u, bytes, hp, hq, hn⟩ := hs
  have hthere : d'.at? u ≠ none := by
    rw [hn]
    exact Option.some_ne_none _
  exact ⟨u, bytes, h.resolve hp hthere, h.resolve hq hthere, h _ _ hn⟩

/-- A walk past an entry that is no directory ends there, or goes on along the link. A way cannot
come past a file and go on, as nothing is below a file. -/
theorem walk_past_entry (links : Nat) (place : Place) (pieces : List String)
    (hv : v ∈ d.way links place pieces) (he : d.HasEntry v)
    (h : d.walk true links place pieces = .ok u) : v = u ∨
      ∃ target links' rest, d.at? v = some (.link target) ∧
        d.walk true links' (startOf target v.dropLast) (target.pieces ++ rest) = .ok u := by
  induction links, place, pieces using walk_induction d with
  | nil links place =>
    rw [way_nil] at hv
    cases hv
  | stuck links place piece rest hd =>
    rw [walk_stuck hd] at h
    cases h
  | idle links place piece rest hd hi ih =>
    rw [way_idle hd hi] at hv
    rw [walk_idle hd hi] at h
    exact ih hv h
  | up links place rest hd ih =>
    rw [way_up hd] at hv
    rw [walk_up hd] at h
    exact ih hv h
  | missing links place piece rest hd hplain hn =>
    rw [way_missing hd hplain hn] at hv
    exact absurd hn (List.mem_singleton.1 hv ▸ he.ne_none)
  | enter links place piece rest node hd hplain hn hl ih =>
    rw [way_enter hd hplain hn hl] at hv
    rw [walk_enter hd hplain hn hl] at h
    rcases List.mem_cons.1 hv with rfl | hv
    swap
    · exact ih hv h
    -- a file, so the walk cannot go on
    cases rest with
    | nil =>
      rw [walk_nil] at h
      exact Or.inl (Except.ok.inj h)
    | cons next later =>
      obtain ⟨node', hn', hdir⟩ := he
      rw [walk_stuck (by rw [hn']; exact fun e => hdir (Option.some.inj e))] at h
      cases h
  | spent place piece rest target hd hplain hn =>
    rw [walk_spent hd hplain hn (Or.inl rfl)] at h
    cases h
  | link links place piece rest target hd hplain hn ih =>
    rw [way_link hd hplain hn] at hv
    rw [walk_follow hd hplain hn (Or.inl rfl)] at h
    rcases List.mem_cons.1 hv with rfl | hv
    · exact Or.inr ⟨target, links, rest, hn, by rwa [List.dropLast_concat]⟩
    · exact ih hv h

/-- Whoever comes to a file goes no further, however many links are left to follow. So a walk
that is made longer by more pieces fails, or it has ended at the file already. -/
theorem walk_to_file (links : Nat) (place : Place) (pieces : List String)
    (h : d.walk true links place pieces = .ok u) (hu : d.at? u = some (.file bytes))
    {links' : Nat} {rest : List String}
    (h' : d.walk true links' place (pieces ++ rest) = .ok v) : v = u := by
  induction links, place, pieces using walk_induction d generalizing links' with
  | nil links place =>
    rw [walk_nil] at h
    obtain rfl := Except.ok.inj h
    cases rest with
    | nil =>
      rw [List.append_nil, walk_nil] at h'
      exact (Except.ok.inj h').symm
    | cons next later =>
      rw [List.nil_append, walk_stuck (by rw [hu]; exact fun e => by cases e)] at h'
      cases h'
  | stuck links place piece more hd =>
    rw [walk_stuck hd] at h
    cases h
  | idle links place piece more hd hi ih =>
    rw [walk_idle hd hi] at h
    rw [List.cons_append, walk_idle hd hi] at h'
    exact ih h h'
  | up links place more hd ih =>
    rw [walk_up hd] at h
    rw [List.cons_append, walk_up hd] at h'
    exact ih h h'
  -- nothing stands where the walk ends, but a file should
  | missing links place piece more hd hplain hn =>
    rw [walk_missing hd hplain hn] at h
    split at h
    · obtain rfl := Except.ok.inj h
      rw [hn] at hu
      cases hu
    · cases h
  | enter links place piece more node hd hplain hn hl ih =>
    rw [walk_enter hd hplain hn hl] at h
    rw [List.cons_append, walk_enter hd hplain hn hl] at h'
    exact ih h h'
  | spent place piece more target hd hplain hn =>
    rw [walk_spent hd hplain hn (Or.inl rfl)] at h
    cases h
  | link links place piece more target hd hplain hn ih =>
    rw [walk_follow hd hplain hn (Or.inl rfl)] at h
    rw [List.cons_append] at h'
    cases links' with
    | zero =>
      rw [walk_spent hd hplain hn (Or.inl rfl)] at h'
      cases h'
    | succ links' =>
      rw [walk_follow hd hplain hn (Or.inl rfl), ← List.append_assoc] at h'
      exact ih h h'

/-- Whoever deletes a file leaves all others to be read that are not the same file. -/
theorem read_clear_iff {q : Path} (hq : d.read q = .ok bytes) (hv : d.resolveEntry q = .ok v)
    (hs : ¬ d.SameFile p q) {bytes' : Bytes} :
    (d.clear v).read p = .ok bytes' ↔ d.read p = .ok bytes' := by
  refine ⟨(within_clear d v).read, fun hp => ?_⟩
  obtain ⟨w, hw, hwn⟩ := read_eq_ok_iff.1 hq
  obtain ⟨u, hu, hun⟩ := read_eq_ok_iff.1 hp
  obtain ⟨v', hv', hcases⟩ := walk_entry_cases linkLimit [] q.pieces hw
    (by rw [hwn]; exact Option.some_ne_none _)
  obtain rfl : v' = v := Except.ok.inj (hv'.symm.trans hv)
  -- a way past the entry would lead to the very file that is deleted
  have hway : v' ∉ d.way linkLimit [] p.pieces := by
    intro hm
    refine hs ⟨u, bytes', hu, ?_, hun⟩
    rcases hcases with rfl | ⟨target, links, hl, hgo⟩
    · rcases walk_past_entry linkLimit [] p.pieces hm ⟨_, hwn, Node.noConfusion⟩ hu with
        rfl | ⟨target, _, _, hl, -⟩
      · exact hw
      · rw [hwn] at hl
        cases hl
    · rcases walk_past_entry linkLimit [] p.pieces hm ⟨_, hl, Node.noConfusion⟩ hu with
        rfl | ⟨target', links', rest, hl', hgo'⟩
      · rw [hun] at hl
        cases hl
      · rw [hl] at hl'
        obtain rfl := Node.link.inj (Option.some.inj hl')
        rw [walk_to_file links _ _ hgo hwn hgo']
        exact hw
  have hsame : ∀ x, x ≠ v' → SameAt d (d.clear v') x := by
    intro x hx
    show (d.clear v').at? x = d.at? x
    rw [clear_eq_without, at?_without, if_neg fun h => hx (List.mem_singleton.1 h.1)]
  have hwalk : ∀ x ∈ d.way linkLimit [] p.pieces, SameAt d (d.clear v') x :=
    fun x hx => hsame x fun he => hway (he ▸ hx)
  refine read_eq_ok_iff.2 ⟨u, ?_, ?_⟩
  · -- nothing has changed on its way, so the walk ends where it ended, and the file there is the
    -- same
    exact ((walk_congr linkLimit [] p.pieces (sameAt_root _ _) hwalk).2 true).trans hu
  · exact (above_of_walk linkLimit [] p.pieces (sameAt_root _ _) hwalk true hu).here.trans hun

/-! ## Directories -/

/-- An entry that is a directory is no link that would lead on. So the two ways to resolve a path
agree on directories. -/
theorem walk_of_entry (links : Nat) (place : Place) (pieces : List String)
    (h : d.walk false links place pieces = .ok v) (hv : d.at? v = some .directory) :
    d.walk true links place pieces = .ok v := by
  induction links, place, pieces using walk_induction d with
  | nil links place => rwa [walk_nil] at h ⊢
  | stuck links place piece rest hd =>
    rw [walk_stuck hd] at h
    cases h
  | idle links place piece rest hd hi ih =>
    rw [walk_idle hd hi] at h ⊢
    exact ih h
  | up links place rest hd ih =>
    rw [walk_up hd] at h ⊢
    exact ih h
  | missing links place piece rest hd hplain hn => rwa [walk_missing hd hplain hn] at h ⊢
  | enter links place piece rest node hd hplain hn hl ih =>
    rw [walk_enter hd hplain hn hl] at h ⊢
    exact ih h
  -- a link at the end is not followed, so the walk would end at the link, which is no directory
  | spent place piece rest target hd hplain hn =>
    by_cases hr : rest = []
    · subst hr
      rw [walk_entry hd hplain hn] at h
      rw [← Except.ok.inj h, hn] at hv
      cases hv
    · rw [walk_spent hd hplain hn (Or.inr hr)] at h
      cases h
  | link links place piece rest target hd hplain hn ih =>
    by_cases hr : rest = []
    · subst hr
      rw [walk_entry hd hplain hn] at h
      rw [← Except.ok.inj h, hn] at hv
      cases hv
    · rw [walk_follow hd hplain hn (Or.inr hr)] at h
      rw [walk_follow hd hplain hn (Or.inl rfl)]
      exact ih h

/-- The directory that pieces lead to is the end of the walk, if that is a directory. -/
theorem directoryAlong_eq_ok_iff : d.directoryAlong links place pieces = .ok v ↔
    d.walk true links place pieces = .ok v ∧ d.at? v = some .directory := by
  unfold directoryAlong
  cases hw : d.walk true links place pieces with
  | error trouble =>
    constructor
    · intro h
      cases h
    · rintro ⟨h, -⟩
      cases h
  | ok u =>
    dsimp only [bind, Except.bind]
    constructor
    · intro h
      cases hn : d.at? u with
      | none =>
        rw [hn] at h
        cases h
      | some node =>
        rw [hn] at h
        cases node with
        | directory =>
          obtain rfl := Except.ok.inj h
          exact ⟨rfl, hn⟩
        | file | link => cases h
    · rintro ⟨hu, hn⟩
      obtain rfl := Except.ok.inj hu
      rw [hn]

/-- The directory that a path leads to is the end of its walk from the root, if that is a
directory. -/
theorem directoryOf_eq_ok_iff : d.directoryOf p = .ok v ↔
    d.resolve p = .ok v ∧ d.at? v = some .directory := directoryAlong_eq_ok_iff

/-- Listing a path is listing the directory that it leads to. -/
theorem list_eq (d : Disk) (p : Path) : d.list p =
    (d.directoryOf p).map fun v => (d.entriesAt v).map fun e => (e.1, e.2.kind) := by
  unfold list directoryOf directoryAlong resolve
  cases hw : d.walk true linkLimit [] p.pieces with
  | error trouble => rfl
  | ok u =>
    dsimp only [bind, Except.bind]
    cases hn : d.at? u with
    | none => rfl
    | some node => cases node <;> rfl

/-- Whether a folder is empty is asked of the directory that its path leads to. A path that leads
to nothing counts as empty: a folder that is gone has been emptied. -/
theorem isEmptyDirectory_eq (d : Disk) (p : Path) : d.isEmptyDirectory p =
    match d.directoryOf p with
    | .ok v => .ok (d.entriesAt v).isEmpty
    | .error .notFound => .ok true
    | .error trouble => .error trouble := by
  unfold isEmptyDirectory
  rw [list_eq]
  cases d.directoryOf p with
  | ok v => simp [Except.map]
  | error trouble => cases trouble <;> rfl

/-- The pieces of a path without the emptiness behind slashes at its end. -/
def trimmed (p : Path) : List String := (p.pieces.reverse.dropWhile (· == "")).reverse

/-- Slashes at the end make no moves. -/
theorem moves_trimmed (p : Path) : moves (trimmed p) = moves p.pieces := by
  unfold trimmed
  induction p.pieces using List.reverseRecOn with
  | nil => rfl
  | append_singleton front last ih =>
    rw [List.reverse_append, List.reverse_singleton, List.singleton_append, List.dropWhile_cons]
    split
    · next h =>
      have hlast : last = "" := by simpa using h
      rw [ih, moves_append, hlast]
      exact (List.append_nil _).symm
    · rw [List.reverse_cons, List.reverse_reverse]

/-- A path leads to the directory that its trimmed pieces lead to. -/
theorem directoryOf_of_trimmed (h : d.walk false linkLimit [] (trimmed p) = .ok v)
    (hv : d.at? v = some .directory) : d.directoryOf p = .ok v :=
  (directoryAlong_of_moves d (moves_trimmed p)).symm.trans
    (directoryAlong_eq_ok_iff.2 ⟨walk_of_entry linkLimit [] (trimmed p) h hv, hv⟩)

/-- A walk that fails is the answer to the removal. -/
theorem removeDirectory_of_trouble {trouble : Trouble}
    (h : d.walk false linkLimit [] (trimmed p) = .error trouble) :
    d.removeDirectory p = .error trouble := by
  unfold removeDirectory
  dsimp only
  rw [← trimmed, h]
  rfl

/-- Where the walk ends, the removal looks at what stands there, unless the path ends in a dot. -/
theorem removeDirectory_of_end (h : d.walk false linkLimit [] (trimmed p) = .ok v) :
    d.removeDirectory p =
      if (trimmed p).getLast? == some "." then .error .noEntry
      else match d.at? v with
        | none => .error .notFound
        | some .directory =>
          if (d.entriesAt v).isEmpty then .ok (d.clear v) else .error .notEmpty
        | some _ => .error .notDirectory := by
  unfold removeDirectory
  dsimp only
  rw [← trimmed, h]
  rfl

/-- What is removed when a folder is removed is an empty directory, and its path leads there. The
walk is made without following a last link, and still the directory is the one that the path
leads to. -/
theorem removeDirectory_eq_ok (h : d.removeDirectory p = .ok d') :
    ∃ v, d.walk false linkLimit [] (trimmed p) = .ok v ∧
      ((trimmed p).getLast? == some ".") = false ∧ d.directoryOf p = .ok v ∧
      d.entriesAt v = [] ∧ d' = d.clear v := by
  cases hw : d.walk false linkLimit [] (trimmed p) with
  | error trouble =>
    rw [removeDirectory_of_trouble hw] at h
    cases h
  | ok v =>
    rw [removeDirectory_of_end hw] at h
    split at h
    · cases h
    next hdot =>
    -- only a directory is removed, and only an empty one
    cases hn : d.at? v with
    | none => simp [hn] at h
    | some node =>
      cases node with
      | file | link => simp [hn] at h
      | directory =>
        simp only [hn] at h
        split at h
        · next he =>
          exact ⟨v, rfl, by simpa using hdot, directoryOf_of_trimmed hw hn,
            List.isEmpty_iff.1 he, (Except.ok.inj h).symm⟩
        · cases h

/-- Whoever judges a folder leaves the disk as it is, or takes an empty directory away, the one
that the path leads to. In the second case the verdict is that all is done. -/
theorem settle_cases (d : Disk) (p : Path) : (d.settle p).1 = d ∨
    ∃ v, d.directoryOf p = .ok v ∧ d.entriesAt v = [] ∧
      d.settle p = (d.clear v, .finishedSuccessfully) := by
  unfold settle
  split
  · unfold removeIfThere
    cases hr : d.removeDirectory p with
    | ok d' =>
      obtain ⟨v, -, -, hv, he, rfl⟩ := removeDirectory_eq_ok hr
      exact Or.inr ⟨v, hv, he, rfl⟩
    | error trouble => cases trouble <;> exact Or.inl rfl
  · exact Or.inl rfl

/-! ## Folders -/

/-- A directory that a path leads to after a deletion is the one it led to before. -/
theorem Within.directoryOf (h : Within d' d) (hv : d'.directoryOf p = .ok v) :
    d.directoryOf p = .ok v := by
  obtain ⟨hw, hn⟩ := directoryOf_eq_ok_iff.1 hv
  exact directoryOf_eq_ok_iff.2
    ⟨h.resolve hw (by rw [hn]; exact Option.some_ne_none _), h _ _ hn⟩

/-- Nothing stands directly below an empty directory. -/
theorem at?_of_entriesAt_nil (h : d.entriesAt v = []) (name : String) :
    d.at? (v ++ [name]) = none := by
  rw [at?_concat]
  unfold Table.get?
  rw [Option.map_eq_none_iff, List.find?_eq_none]
  intro e he hb
  have hkey : e.1 = v ++ [name] := by simpa using hb
  have hnone := List.filterMap_eq_nil_iff.1 h e he
  rw [hkey, List.getLast?_concat, List.dropLast_concat] at hnone
  simp at hnone

/-- Whether a folder is registered under a path does not hang on its state. -/
theorem stateOf?_isSome_setState (r : Registry) (path q : Path) (state : FolderState) :
    ((r.setState path state).stateOf? q).isSome = (r.stateOf? q).isSome := by
  unfold Registry.stateOf? Registry.setState
  simp only [Option.isSome_map]
  induction r.folders with
  | nil => rfl
  | cons f rest ih =>
    rw [Registry.setState.go]
    split
    · rw [List.find?_cons, List.find?_cons]
      cases f.path == q <;> rfl
    · rw [List.find?_cons, List.find?_cons]
      cases f.path == q
      · exact ih
      · rfl

/-- A verdict makes nobody known and nobody unknown; it only changes the state of a folder that
was registered. -/
theorem isSome_stateOf?_finishOne (d : Disk) (r : Registry) (q p : Path) :
    ((Registry.finishOne (d, r) q).2.stateOf? p).isSome = (r.stateOf? p).isSome := by
  unfold Registry.finishOne
  dsimp only
  split
  · exact stateOf?_isSome_setState r q p _
  · rfl

/-- A verdict takes at most the directory of its own folder, and only if it is empty. Of a folder
that is not registered nothing is taken. -/
theorem finishOne_disk_cases (d : Disk) (r : Registry) (q : Path) :
    (Registry.finishOne (d, r) q).1 = d ∨ ∃ v, (r.stateOf? q).isSome = true ∧
      d.directoryOf q = .ok v ∧ d.entriesAt v = [] ∧
      (Registry.finishOne (d, r) q).1 = d.clear v := by
  unfold Registry.finishOne
  dsimp only
  split
  · next hq =>
    rcases settle_cases d q with hsame | ⟨v, hv, he, hs⟩
    · exact Or.inl hsame
    · exact Or.inr ⟨v, hq, hv, he, by rw [hs]⟩
  · exact Or.inl rfl

/-- What a job takes away that is done with the given paths are directories of registered folders
that it names, and nothing is left in them. The paths are judged one after the other, each on the
disk that the ones before have left; what they lead to is said of the disk at the beginning. -/
theorem finish_takes (d : Disk) (r : Registry) (paths : List Path) :
    ∃ gone, (Registry.finish d r paths).1 = d.without gone ∧ ∀ v ∈ gone,
      (∃ q ∈ paths, (r.stateOf? q).isSome = true ∧ d.directoryOf q = .ok v) ∧
        ∀ name, (Registry.finish d r paths).1.at? (v ++ [name]) = none := by
  induction paths generalizing d r with
  | nil => exact ⟨[], (without_nil d).symm, fun v hv => absurd hv List.not_mem_nil⟩
  | cons q later ih =>
    show ∃ gone, (Registry.finish (Registry.finishOne (d, r) q).1
      (Registry.finishOne (d, r) q).2 later).1 = _ ∧ _
    obtain ⟨gone, hgone, htaken⟩ := ih (Registry.finishOne (d, r) q).1
      (Registry.finishOne (d, r) q).2
    have hfirst := finishOne_disk_cases d r q
    have hlater : ∀ v ∈ gone, (∃ q' ∈ q :: later, (r.stateOf? q').isSome = true ∧
        d.directoryOf q' = .ok v) ∧ ∀ name,
        (Registry.finish (Registry.finishOne (d, r) q).1 (Registry.finishOne (d, r) q).2
          later).1.at? (v ++ [name]) = none := by
      -- what a later path leads to it led to before the first verdict, too
      have hwithin : Within (Registry.finishOne (d, r) q).1 d := by
        rcases hfirst with he | ⟨v, -, -, -, he⟩ <;> rw [he]
        · exact Within.refl d
        · exact within_clear d v
      intro v hv
      obtain ⟨⟨q', hq', hs, hdir⟩, hempty⟩ := htaken v hv
      rw [isSome_stateOf?_finishOne] at hs
      exact ⟨⟨q', List.mem_cons_of_mem _ hq', hs, hwithin.directoryOf hdir⟩, hempty⟩
    rcases hfirst with he | ⟨v, hs, hdir, hempty, he⟩
    · exact ⟨gone, by rw [hgone, he], hlater⟩
    · refine ⟨[v] ++ gone, by rw [hgone, he, clear_eq_without, without_without], fun u hu => ?_⟩
      rcases List.mem_append.1 hu with hu | hu
      · obtain rfl := List.mem_singleton.1 hu
        refine ⟨⟨q, List.mem_cons_self, hs, hdir⟩, fun name => ?_⟩
        show (Registry.finish (Registry.finishOne (d, r) q).1
          (Registry.finishOne (d, r) q).2 later).1.at? _ = none
        -- nothing comes back below the first directory while the later ones are judged
        rw [hgone, he, clear_eq_without, without_without, at?_without,
          at?_of_entriesAt_nil hempty]
        exact ite_self _
      · exact hlater u hu

end PushToTalk.Disk
