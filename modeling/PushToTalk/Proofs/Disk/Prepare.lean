import PushToTalk.Proofs.Disk.Outcome

/-
  Preparing a session folder.

  Before a session starts, whatever an earlier run left in its folder is taken away.  This is the
  only place where the relay deletes directories with all that is in them, and it does so by a path
  that it has made up from settings and a number.  The path of the folder decides what goes: the
  entry that it leads to, with everything below it, and never anything beside it.

  1. **The entry of a session folder** — it lies right in the directory that the root leads to,
     under the folder's name (`resolveEntry_session`).

  2. **What is done** (`prepares`) — there are five cases.  Nothing is found, or a file is, and the
     disk stays as it is.  A link is cut, and what it leads to stays.  A directory is taken away
     with everything below.  Or it is emptied and stays: a directory that the way to the recordings
     leads through cannot be found any more once it is empty, and the path of the folder leads
     nowhere then.

  3. **What is left** (`prepared`) — each field of `Prepared` is shown by these five cases: nothing
     is added, nothing changes outside, whatever was inside is gone, and a path that does not come
     by the folder leads to what it led to.

  `plain` is the same for disks without links and roots without steps up, told by names alone.

  Main statement: `prepared`.
-/

namespace PushToTalk.Disk

open PushToTalk.Path (IsPlain)

variable {d d' : Disk} {p root : Path} {base u v : Place} {n : Nat} {node : Node}

/-! ## The entry of a session folder -/

/-- One name in a directory leads to the entry of that name, whatever it is. -/
theorem walk_last {links : Nat} {piece : String} (hd : d.at? base = some .directory)
    (hp : IsPlain piece) : d.walk false links base [piece] = .ok (base ++ [piece]) := by
  rw [walk_plain hd hp]
  cases hn : d.at? (base ++ [piece]) with
  | none => rfl
  | some node =>
    cases node with
    | directory | file => exact walk_nil d false links _
    | link target => rfl

/-- The entry that a session folder's path leads to lies right in the directory that the root
leads to. -/
theorem resolveEntry_session (h : d.resolveEntry (sessionFolder root n) = .ok v) :
    ∃ links base trail, d.Leads linkLimit [] root.front links base trail ∧
      d.at? base = some .directory ∧ v = base ++ [sessionName n] := by
  unfold resolveEntry at h
  rw [pieces_session] at h
  rcases leads_or_stuck d linkLimit [] root.front with ⟨links, base, trail, hl⟩ | ⟨trouble, hw⟩
  swap
  · rw [hw false _ (List.cons_ne_nil _ _)] at h
    cases h
  rw [walk_of_leads hl false (List.cons_ne_nil _ _)] at h
  have hbase : d.at? base = some .directory := by
    by_contra hd
    rw [walk_stuck hd] at h
    cases h
  rw [walk_last hbase (isPlain_sessionName n)] at h
  exact ⟨links, base, trail, hl, hbase, (Except.ok.inj h).symm⟩

/-- Where there is a way to the recordings, a session folder's path leads to its entry. -/
theorem Leads.resolveEntry {links : Nat} {trail : List Place}
    (h : d.Leads linkLimit [] root.front links base trail) (hd : d.at? base = some .directory)
    (n : Nat) : d.resolveEntry (sessionFolder root n) = .ok (base ++ [sessionName n]) := by
  unfold Disk.resolveEntry
  rw [pieces_session, walk_of_leads h false (List.cons_ne_nil _ _),
    walk_last hd (isPlain_sessionName n)]

/-- The root leads to the directory that the session folders lie in. -/
theorem Leads.resolve {links : Nat} {trail : List Place}
    (h : d.Leads linkLimit [] root.front links base trail)
    (hd : d.at? base = some .directory) : d.resolve root = .ok base := by
  unfold Disk.resolve
  rcases Path.front_cases root with ⟨hp, -⟩ | hp
  · rw [hp]
    exact h.walk
  · rw [hp, walk_of_leads h true (List.cons_ne_nil _ _), walk_idle hd (by decide), walk_nil]

/-! ## What is done -/

/-- Something is found at a path if the path leads to a place, and there it stands. -/
theorem find_eq_ok_iff : d.find p = .ok node ↔ ∃ u, d.resolve p = .ok u ∧ d.at? u = some node := by
  unfold find
  cases hw : d.resolve p with
  | error trouble => simp [bind, Except.bind]
  | ok u =>
    dsimp only [bind, Except.bind]
    cases hn : d.at? u with
    | none => simp [hn]
    | some found => simp [hn]

/-- Nobody finds anything at a path that leads nowhere, or to where nothing is. -/
theorem find_eq_notFound (h : d.walk true linkLimit [] p.pieces = .error .notFound ∨
    ∃ v, d.walk true linkLimit [] p.pieces = .ok v ∧ d.at? v = none) :
    d.find p = .error .notFound := by
  rcases h with hw | ⟨v, hw, hv⟩
  · unfold find resolve
    rw [hw]
    rfl
  · rw [find_of_walk hw, hv]
    rfl

/-- What becomes of a disk on which a folder is prepared. -/
inductive Prepares (d : Disk) (p : Path) : Disk → Prop
  | missing (h : ∀ node, d.find p ≠ .ok node) : Prepares d p d
  | file {v : Place} {bytes : Bytes} (hv : d.resolveEntry p = .ok v)
      (hn : d.at? v = some (.file bytes)) : Prepares d p d
  | link {v : Place} {target : Path} (hv : d.resolveEntry p = .ok v)
      (hn : d.at? v = some (.link target)) : Prepares d p (d.clear v)
  | directory {v : Place} (hv : d.resolveEntry p = .ok v) (hn : d.at? v = some .directory) :
      Prepares d p (d.clearBelow v)
  | emptied {v : Place} {trouble : Trouble} (hv : d.resolveEntry p = .ok v)
      (hn : d.at? v = some .directory)
      (hlost : (d.clearInside v).resolveEntry p = .error trouble) :
      Prepares d p (d.clearInside v)

/-- Preparing a folder is one of these five. -/
theorem prepares (d : Disk) (p : Path) : Prepares d p (d.prepare p) := by
  by_cases hf : ∃ node, d.find p = .ok node
  swap
  · have hnone : ∀ node, d.find p ≠ .ok node := fun node h => hf ⟨node, h⟩
    have hprepare : d.prepare p = d := by
      unfold prepare tryExists
      cases hp : d.find p with
      | ok node => exact absurd hp (hnone node)
      | error trouble => cases trouble <;> rfl
    rw [hprepare]
    exact .missing hnone
  obtain ⟨node, hf⟩ := hf
  obtain ⟨u, hu, hn⟩ := find_eq_ok_iff.1 hf
  obtain ⟨v, hv, hcases⟩ := walk_entry_cases linkLimit [] p.pieces hu
    (by rw [hn]; exact Option.some_ne_none _)
  have hthere : d.tryExists p = .ok true := by
    rw [tryExists_of_walk hu, hn]
    rfl
  unfold prepare
  rw [hthere]
  dsimp only
  rw [removeTree_of_walk hv]
  cases hn' : d.at? v with
  | none =>
    -- the entry is what was found, or a link that leads there
    rcases hcases with rfl | ⟨target, -, hl, -⟩
    · rw [hn'] at hn
      cases hn
    · rw [hn'] at hl
      cases hl
  | some node' =>
    cases node' with
    | file bytes => exact .file hv hn'
    | link target => exact .link hv hn'
    | directory =>
      dsimp only
      cases hr : (d.clearInside v).resolveEntry p with
      | ok w => exact .directory hv hn'
      | error trouble => exact .emptied hv hn' hr

/-- Only a directory or a link is ever taken away. -/
theorem Prepares.eq_or_taken (hp : Prepares d p d') : d' = d ∨ ∃ v, d.resolveEntry p = .ok v ∧
    (d.at? v = some .directory ∨ ∃ target, d.at? v = some (.link target)) := by
  cases hp with
  | missing | file => exact Or.inl rfl
  | link hv hn => exact Or.inr ⟨_, hv, Or.inr ⟨_, hn⟩⟩
  | directory hv hn | emptied hv hn => exact Or.inr ⟨_, hv, Or.inl hn⟩

/-! ## What is left -/

/-- Nothing appears when a tree is taken away. -/
theorem within_clearBelow (d : Disk) (base : Place) (name : String) :
    Within (d.clearBelow (base ++ [name])) d := by
  intro u node hu
  rw [at?_clearBelow] at hu
  split at hu
  · cases hu
  · exact hu

/-- Nothing appears when a directory is emptied. -/
theorem within_clearInside (d : Disk) (v : Place) : Within (d.clearInside v) d := by
  intro u node hu
  rw [at?_clearInside] at hu
  split at hu
  · cases hu
  · exact hu

/-- What is no longer the same is gone. -/
theorem Within.sameAt_or_none (h : Within d' d) (u : Place) :
    SameAt d d' u ∨ d'.at? u = none := by
  cases hu : d'.at? u with
  | none => exact Or.inr rfl
  | some node => exact Or.inl (hu.trans (h u node hu).symm)

section Session

variable (hp : Prepares d (sessionFolder root n) d')
include hp

/-- Preparing a folder adds nothing. -/
theorem Prepares.within : Within d' d := by
  cases hp with
  | missing | file => exact Within.refl d
  | link => exact within_clear d _
  | directory hv =>
    obtain ⟨-, base, -, -, -, rfl⟩ := resolveEntry_session hv
    exact within_clearBelow d base _
  | emptied => exact within_clearInside d _

/-- A tree stays one when a session folder is prepared. -/
theorem Prepares.isTree (ht : d.IsTree) : d'.IsTree := by
  cases hp with
  | missing | file => exact ht
  | link hv hn =>
    obtain ⟨-, base, -, -, -, rfl⟩ := resolveEntry_session hv
    exact ht.clear (ht.none_below (by rw [hn]; exact fun e => by cases e))
  | directory hv =>
    obtain ⟨-, base, -, -, -, rfl⟩ := resolveEntry_session hv
    exact ht.clearBelow base _
  | emptied => exact ht.clearInside _

/-- Nothing changes but at the folder's place and below. -/
theorem Prepares.outside
    (hu : ∀ v, d.resolveEntry (sessionFolder root n) = .ok v → ¬ v <+: u) :
    d'.at? u = d.at? u := by
  cases hp with
  | missing | file => rfl
  | link hv hn =>
    obtain ⟨-, base, -, -, -, rfl⟩ := resolveEntry_session hv
    rw [at?_clear, if_neg]
    rintro rfl
    exact hu _ hv (List.prefix_refl _)
  | directory hv hn =>
    obtain ⟨-, base, -, -, -, rfl⟩ := resolveEntry_session hv
    rw [at?_clearBelow, if_neg (hu _ hv)]
  | emptied hv => rw [at?_clearInside, if_neg fun h => hu _ hv h.1]

/-- A session folder's place is empty afterwards, or its path leads nowhere, if there was a
directory, or a link that led to something. -/
theorem Prepares.none_or_lost (hv : d.resolveEntry (sessionFolder root n) = .ok v)
    (hf : d.find (sessionFolder root n) = .ok node)
    (hn : ∀ bytes, d.at? v ≠ some (.file bytes)) :
    d'.at? v = none ∨ ∃ trouble, d'.resolveEntry (sessionFolder root n) = .error trouble := by
  cases hp with
  | missing hnone => exact absurd hf (hnone node)
  | file hv' hn' =>
    obtain rfl := Except.ok.inj (hv.symm.trans hv')
    exact absurd hn' (hn _)
  | link hv' =>
    obtain rfl := Except.ok.inj (hv.symm.trans hv')
    obtain ⟨-, base, -, -, -, rfl⟩ := resolveEntry_session hv
    left
    rw [at?_clear, if_pos rfl]
  | directory hv' =>
    obtain rfl := Except.ok.inj (hv.symm.trans hv')
    obtain ⟨-, base, -, -, -, rfl⟩ := resolveEntry_session hv
    left
    rw [at?_clearBelow, if_pos (List.prefix_refl _)]
  | emptied hv' hn' hlost => exact Or.inr ⟨_, hlost⟩

/-- No path leads into a directory that was found there, nor to it. -/
theorem Prepares.lost (hf : d.find (sessionFolder root n) = .ok .directory)
    (rest : List String) :
    d'.find ⟨(sessionFolder root n).pieces ++ rest⟩ = .error .notFound := by
  obtain ⟨u, hu, hn⟩ := find_eq_ok_iff.1 hf
  obtain ⟨v, hv, hcases⟩ := walk_entry_cases linkLimit [] _ hu
    (by rw [hn]; exact Option.some_ne_none _)
  have hfile : ∀ bytes, d.at? v ≠ some (.file bytes) := by
    intro bytes hb
    rcases hcases with rfl | ⟨target, -, hl, -⟩
    · rw [hn] at hb
      cases hb
    · rw [hl] at hb
      cases hb
  obtain ⟨links, base, trail, hl, hbase, rfl⟩ := resolveEntry_session hv
  refine find_eq_notFound ?_
  show d'.walk true linkLimit [] ((sessionFolder root n).pieces ++ rest) = _ ∨ _
  rw [pieces_session, List.append_assoc, List.singleton_append]
  -- what is taken away may cut the way to the recordings
  rcases hl.cut (sameAt_root d d') (fun u _ => hp.within.sameAt_or_none u) with hl' | hcut
  swap
  · exact Or.inl (hcut true _ (List.cons_ne_nil _ _))
  have hbase' : d'.at? base = some .directory := by
    rw [hp.outside, hbase]
    intro v' hv'
    obtain rfl := Except.ok.inj (hv.symm.trans hv')
    exact not_prefix_base base n
  have hnone : d'.at? (base ++ [sessionName n]) = none := by
    rcases hp.none_or_lost hv hf hfile with hnone | ⟨trouble, hlost⟩
    · exact hnone
    · rw [hl'.resolveEntry hbase' n] at hlost
      cases hlost
  show d'.walk true linkLimit [] (root.front ++ sessionName n :: rest) = _ ∨
    ∃ v, d'.walk true linkLimit [] (root.front ++ sessionName n :: rest) = _ ∧ _
  rw [walk_of_leads hl' true (List.cons_ne_nil _ _),
    walk_missing hbase' (isPlain_sessionName n) hnone]
  split
  · exact Or.inr ⟨_, rfl, hnone⟩
  · exact Or.inl rfl

/-- What was in a directory is gone. -/
theorem Prepares.inside (hv : d.resolveEntry (sessionFolder root n) = .ok v)
    (hn : d.at? v = some .directory) (hu : v <+: u) (hne : u ≠ v) : d'.at? u = none := by
  cases hp with
  | missing hnone =>
    refine absurd ?_ (hnone .directory)
    exact find_eq_ok_iff.2 ⟨v, walk_of_entry linkLimit [] _ hv hn, hn⟩
  | file hv' hn' | link hv' hn' =>
    obtain rfl := Except.ok.inj (hv.symm.trans hv')
    rw [hn] at hn'
    cases hn'
  | directory hv' =>
    obtain rfl := Except.ok.inj (hv.symm.trans hv')
    obtain ⟨-, base, -, -, -, rfl⟩ := resolveEntry_session hv
    rw [at?_clearBelow, if_pos hu]
  | emptied hv' =>
    obtain rfl := Except.ok.inj (hv.symm.trans hv')
    rw [at?_clearInside, if_pos ⟨hu, hne⟩]

/-- A directory is gone if it is found again when it is empty. -/
theorem Prepares.gone (hv : d.resolveEntry (sessionFolder root n) = .ok v)
    (hn : d.at? v = some .directory)
    (hway : ∀ u ∈ d.way linkLimit [] (sessionFolder root n).pieces, v <+: u → u = v) :
    d'.at? v = none := by
  have hfile : ∀ bytes, d.at? v ≠ some (.file bytes) := by
    intro bytes hb
    rw [hn] at hb
    cases hb
  have hfound : d.find (sessionFolder root n) = .ok .directory :=
    find_eq_ok_iff.2 ⟨v, walk_of_entry linkLimit [] _ hv hn, hn⟩
  rcases hp.none_or_lost hv hfound hfile with hnone | ⟨trouble, hlost⟩
  · exact hnone
  by_contra hthere
  -- nothing has changed on the way, so the folder is still found
  have hsame : ∀ u ∈ d.way linkLimit [] (sessionFolder root n).pieces, SameAt d d' u := by
    intro u hu
    by_cases hvu : v <+: u
    · rw [hway u hu hvu]
      rcases hp.within.sameAt_or_none v with hs | hnone
      · exact hs
      · exact absurd hnone hthere
    · refine hp.outside fun v' hv' => ?_
      rwa [Except.ok.inj (hv'.symm.trans hv)]
  have hagain : d'.resolveEntry (sessionFolder root n) = .ok v :=
    ((walk_congr linkLimit [] _ (sameAt_root d d') hsame).2 false).trans hv
  rw [hagain] at hlost
  cases hlost

/-- Whoever does not come by the folder finds what was there before. -/
theorem Prepares.paths {q : Path} (hq : ∀ v, d.resolveEntry (sessionFolder root n) = .ok v →
    ∀ u ∈ d.way linkLimit [] q.pieces, ¬ v <+: u) :
    d'.resolve q = d.resolve q ∧ d'.find q = d.find q := by
  have hsame : ∀ u ∈ d.way linkLimit [] q.pieces, SameAt d d' u :=
    fun u hu => hp.outside fun v hv => hq v hv u hu
  have hresolve : d'.resolve q = d.resolve q :=
    (walk_congr linkLimit [] q.pieces (sameAt_root d d') hsame).2 true
  refine ⟨hresolve, ?_⟩
  unfold find
  rw [hresolve]
  cases hw : d.resolve q with
  | error trouble => rfl
  | ok u =>
    have hu : d'.at? u = d.at? u :=
      (above_of_walk linkLimit [] q.pieces (sameAt_root d d') hsame true hw).here
    dsimp only [bind, Except.bind]
    rw [hu]

end Session

/-- The disk after the folder of session `n` below `root` is prepared. -/
structure Prepared (root : Path) (n : Nat) (d d' : Disk) : Prop where
  /-- Nothing is there that was not there before. -/
  within : Within d' d
  /-- Every place is as it was that is not the folder's and does not lie below. -/
  outside : ∀ u, (∀ v, d.resolveEntry (sessionFolder root n) = .ok v → ¬ v <+: u) →
    d'.at? u = d.at? u
  /-- So is whatever lies beside the folder, however its name begins. -/
  siblings : ∀ base, d.resolve root = .ok base → ∀ name, name ≠ sessionName n → ∀ later,
    d'.at? (base ++ name :: later) = d.at? (base ++ name :: later)
  /-- A path that does not come by the folder leads to what it led to. -/
  paths : ∀ q : Path, (∀ v, d.resolveEntry (sessionFolder root n) = .ok v →
    ∀ u ∈ d.way linkLimit [] q.pieces, ¬ v <+: u) →
      d'.resolve q = d.resolve q ∧ d'.find q = d.find q
  /-- If there was a directory, everything in it is gone. -/
  inside : ∀ v, d.resolveEntry (sessionFolder root n) = .ok v → d.at? v = some .directory →
    ∀ u, v <+: u → u ≠ v → d'.at? u = none
  /-- The directory is gone, too, unless its own path leads through what is in it. -/
  gone : ∀ v, d.resolveEntry (sessionFolder root n) = .ok v → d.at? v = some .directory →
    (∀ u ∈ d.way linkLimit [] (sessionFolder root n).pieces, v <+: u → u = v) → d'.at? v = none
  /-- If the folder's path led to a directory, no path through it leads anywhere. -/
  lost : d.find (sessionFolder root n) = .ok .directory →
    ∀ rest, d'.find ⟨(sessionFolder root n).pieces ++ rest⟩ = .error .notFound
  /-- Without links, and below a root that never goes up, it is all in the names. -/
  plain : (∀ v target, d.at? v ≠ some (.link target)) → ".." ∉ root.pieces →
    (d.find (sessionFolder root n) = .ok .directory →
      ∀ u, moves (sessionFolder root n).pieces <+: u → d'.at? u = none) ∧
    ∀ q : Path, ".." ∉ q.pieces →
      ¬ moves (sessionFolder root n).pieces <+: moves q.pieces → d'.find q = d.find q

/-- Below a root without steps up a session folder's path has none either. -/
theorem up_not_mem_session (h : ".." ∉ root.pieces) : ".." ∉ (sessionFolder root n).pieces := by
  rw [pieces_session, List.mem_append, List.mem_singleton]
  rintro (hfront | hname)
  · rcases Path.front_cases root with ⟨hp, -⟩ | hp
    · exact h (hp ▸ hfront)
    · exact h (hp ▸ List.mem_append_left _ hfront)
  · have hplain := (isPlain_sessionName n).2
    rw [← hname] at hplain
    cases hplain

/-- Preparing a session folder takes away what is at the folder's place, and nothing else. -/
theorem prepared (d : Disk) (root : Path) (n : Nat) :
    Prepared root n d (d.prepare (sessionFolder root n)) := by
  have hp := prepares d (sessionFolder root n)
  -- beside the folder lie the other names of its directory, which its own place is no prefix of
  refine ⟨hp.within, fun u => hp.outside, fun base hbase name hname later => ?_, fun q => hp.paths,
    fun v hv hn u => hp.inside hv hn, fun v => hp.gone, hp.lost, fun hlinks hup => ?_⟩
  · refine hp.outside fun v hv hvu => ?_
    obtain ⟨links, base', trail, hl, hdir, rfl⟩ := resolveEntry_session hv
    obtain rfl := Except.ok.inj ((hl.resolve hdir).symm.trans hbase)
    rw [List.prefix_append_right_inj, List.cons_prefix_cons] at hvu
    exact hname hvu.1.symm
  -- the places of paths that go down are spelled by their names
  have hspelled : ∀ v, d.resolveEntry (sessionFolder root n) = .ok v →
      d.at? v = some .directory → v = moves (sessionFolder root n).pieces := fun v hv hn =>
    (walk_down hlinks linkLimit [] _ (up_not_mem_session hup)).2 v
      (walk_of_entry linkLimit [] _ hv hn)
  refine ⟨fun hf u hu => ?_, fun q hqup hq => ?_⟩
  · obtain ⟨w, hw, hdir⟩ := find_eq_ok_iff.1 hf
    obtain ⟨v, hv, rfl | ⟨target, -, hl, -⟩⟩ := walk_entry_cases linkLimit [] _ hw
      (by rw [hdir]; exact Option.some_ne_none _)
    swap
    · exact absurd hl (hlinks v target)
    have hvm := hspelled v hv hdir
    rw [← hvm] at hu
    by_cases hne : u = v
    · subst hne
      refine hp.gone hv hdir fun x hx hux => ?_
      have hxu := (walk_down hlinks linkLimit [] _ (up_not_mem_session hup)).1 x hx
      rw [List.nil_append, ← hvm] at hxu
      exact hxu.eq_of_length (Nat.le_antisymm hxu.length_le hux.length_le)
    · exact hp.inside hv hdir hu hne
  · rcases hp.eq_or_taken with he | ⟨v, hv, hn | ⟨target, hn⟩⟩
    · rw [he]
    · refine (hp.paths fun v' hv' u hu hvu => hq ?_).2
      obtain rfl := Except.ok.inj (hv.symm.trans hv')
      rw [← hspelled v hv hn]
      exact hvu.trans ((walk_down hlinks linkLimit [] q.pieces hqup).1 u hu)
    · exact absurd hn (hlinks v target)

end PushToTalk.Disk
