import PushToTalk.Proofs.Disk.Walk
import PushToTalk.Proofs.SessionFolder
import PushToTalk.Recorder
import PushToTalk.Station

/-
  Session folders on the disk.

  The relay works in folders `voice0`, `voice1`, … below one directory, and everything that it does
  with the disk is done to one of them: making it, recording into it, reading and deleting files of
  it, judging it at the end.  Here each of these operations is told by what stands at the place of
  the folder, and it is shown that nothing outside of that place changes.  Sessions are therefore
  independent of one another on the disk, which is what lets the invariants of the relay speak of
  one folder at a time.

  1. **The way.**  `Rooted` is a disk on which the path of the recordings leads to a directory, past
     all session folders in it, and on which no session folder is a link.  The second part is the
     one that matters: the way to the recordings must not go through a session folder, or deleting a
     folder would take the way with it.  `Reached` asks for the way only, wherever it leads past;
     that is enough to tell what one operation does, but not what is left afterwards.
  2. **Walks.**  Under `Reached` the path of a folder, or of an entry in it, is resolved to its
     place (`walk_session`, `walk_entry`), or fails where there is no folder (`walk_missing`).
     Under `Unled`, where the root leads nowhere, every such walk fails in the same way.
  3. **Operations.**  For each of them there is an equation in terms of the place, and a proof that
     it `KeepsTo` its folder: a disk that is `Rooted` stays so, and nothing changes outside.
  4. **The start** of a session, which removes a stray folder of that name, makes it anew, and lets
     the recorder drop its files, one after the other (`Fresh`).

  An entry is named by a plain name here.  A name that is not plain names the folder itself or the
  directory above it, and the operations refuse those (`walk_not_plain`).

  Main statements: `keepsTo_settle`, `keepsTo_delete`, `keepsTo_make` and `rooted_start`.
-/

namespace PushToTalk.Disk

open PushToTalk.Path (IsPlain)

/-! ## The way to the recordings -/

/-- The place lies outside of all session folders of a directory, so what is done in them leaves
it as it is. -/
def Apart (base v : Place) : Prop := ∀ n, ¬ (base ++ [sessionName n]) <+: v

/-- The root leads to a directory, past the session folders in it, and none of them is a link.
All four survive what the relay does with its folders (`Rooted.changes`), and a blank disk has
them once the root has been made. -/
structure Rooted (root : Path) (base : Place) (d : Disk) : Prop where
  tree : d.IsTree
  goal : d.at? base = some .directory
  way : ∃ links trail, d.Leads linkLimit [] root.front links base trail ∧
    ∀ v ∈ trail, Apart base v
  noLink : ∀ n target, d.at? (base ++ [sessionName n]) ≠ some (.link target)

/-- The root leads to a directory, whatever it leads past, and no session folder in it is a
link. -/
structure Reached (root : Path) (base : Place) (d : Disk) : Prop where
  goal : d.at? base = some .directory
  way : ∃ links trail, d.Leads linkLimit [] root.front links base trail
  noLink : ∀ n target, d.at? (base ++ [sessionName n]) ≠ some (.link target)

/-- The root leads nowhere: there is no directory at its end, or something on the way is missing. -/
def Unled (root : Path) (d : Disk) : Prop :=
  ∀ links goal trail, ¬ d.Leads linkLimit [] root.front links goal trail

/-- Nothing changes outside of a session folder. -/
def ChangesOnly (base : Place) (n : Nat) (d d' : Disk) : Prop :=
  ∀ v, ¬ (base ++ [sessionName n]) <+: v → d'.at? v = d.at? v

variable {root : Path} {base : Place} {d d' : Disk} {n : Nat} {name : String} {follow : Bool}

/-- Nothing changes at all. -/
theorem ChangesOnly.refl (base : Place) (n : Nat) (d : Disk) : ChangesOnly base n d d :=
  fun _ _ => rfl

/-- Two changes of one folder are a change of that folder. -/
theorem ChangesOnly.trans {d₁ d₂ d₃ : Disk} (h : ChangesOnly base n d₁ d₂)
    (k : ChangesOnly base n d₂ d₃) : ChangesOnly base n d₁ d₃ :=
  fun v hv => (k v hv).trans (h v hv)

/-- What holds under the weaker hypothesis holds here too. -/
theorem Rooted.reached (h : Rooted root base d) : Reached root base d where
  goal := h.goal
  way := by
    obtain ⟨links, trail, hleads, -⟩ := h.way
    exact ⟨links, trail, hleads⟩
  noLink := h.noLink

/-- The directory of the recordings lies in none of the folders in it. -/
theorem not_prefix_base (base : Place) (n : Nat) : ¬ (base ++ [sessionName n]) <+: base := by
  intro h
  have hl := h.length_le
  rw [List.length_append, List.length_singleton] at hl
  omega

/-- Session folders do not lie in one another, because two numbers have two names. So a change of
one of them changes nothing in another. -/
theorem not_prefix_session (base : Place) {m n : Nat} (h : m ≠ n) (later : List String) :
    ¬ (base ++ [sessionName n]) <+: (base ++ sessionName m :: later) := by
  rw [List.prefix_append_right_inj, List.cons_prefix_cons]
  exact fun hp => h (sessionName_injective hp.1).symm

/-- The way stays as long as nothing changes outside of a session folder. That folder itself may
come, go or turn into a file, as long as it does not become a link. -/
theorem Rooted.changes (h : Rooted root base d) (hc : ChangesOnly base n d d') (ht : d'.IsTree)
    (hl : ∀ target, d'.at? (base ++ [sessionName n]) ≠ some (.link target)) :
    Rooted root base d' where
  tree := ht
  goal := by rw [hc base (not_prefix_base base n), h.goal]
  -- no entry on the way lies in the folder, so the same trail still leads to the base
  way := by
    obtain ⟨links, trail, hleads, hapart⟩ := h.way
    exact ⟨links, trail, hleads.congr fun v hv => hc v (hapart v hv n), hapart⟩
  noLink m target := by
    by_cases hm : m = n
    · rw [hm]
      exact hl target
    · rw [hc _ (not_prefix_session base hm [])]
      exact h.noLink m target

/-! ## Walking to a session folder -/

/-- The pieces of a session folder are those of the root and its own name. -/
theorem pieces_session (root : Path) (n : Nat) :
    (sessionFolder root n).pieces = root.front ++ [sessionName n] := Path.pieces_child _ _

/-- An entry has two names more than the root. No dot comes in between, since both names are
plain or joined as they are. -/
theorem pieces_entry (root : Path) (n : Nat) (name : String) :
    ((sessionFolder root n).child name).pieces = root.front ++ [sessionName n, name] := by
  rw [Path.pieces_child, sessionFolder_eq, Path.front_child (isPlain_sessionName n),
    List.append_assoc]
  rfl

/-- Behind the root a walk goes on at the base, with the links that are left. This is the only
place where the way itself is used. -/
theorem Reached.walk (h : Reached root base d) : ∃ links, ∀ follow rest, rest ≠ [] →
    d.walk follow linkLimit [] (root.front ++ rest) = d.walk follow links base rest := by
  obtain ⟨links, trail, hleads⟩ := h.way
  exact ⟨links, fun follow rest hr => walk_of_leads hleads follow hr⟩

/-- The path of a session folder leads to its place, whether something is there or not. -/
theorem Reached.walk_session (h : Reached root base d) (follow : Bool) (n : Nat) :
    d.walk follow linkLimit [] (sessionFolder root n).pieces =
      .ok (base ++ [sessionName n]) := by
  obtain ⟨links, hw⟩ := h.walk
  rw [pieces_session, hw follow _ (by simp), walk_plain h.goal (isPlain_sessionName n)]
  -- the name is the last piece, so what stands there does not matter, unless it were a link
  cases ha : d.at? (base ++ [sessionName n]) with
  | none => rfl
  | some node =>
    cases node with
    | directory => rw [Disk.walk]
    | file bytes => rw [Disk.walk]
    | link target => exact absurd ha (h.noLink n target)

/-- The path of an entry leads to its place, if the session folder is there. -/
theorem Reached.walk_entry (h : Reached root base d) (follow : Bool)
    (hd : d.at? (base ++ [sessionName n]) = some .directory) (hp : IsPlain name)
    (hl : follow = true → ∀ target,
      d.at? (base ++ [sessionName n] ++ [name]) ≠ some (.link target)) :
    d.walk follow linkLimit [] ((sessionFolder root n).child name).pieces =
      .ok (base ++ [sessionName n] ++ [name]) := by
  obtain ⟨links, hw⟩ := h.walk
  rw [pieces_entry, hw follow _ (by simp), walk_plain h.goal (isPlain_sessionName n)]
  simp only [hd]
  rw [walk_plain hd hp]
  -- a link may be the entry itself, if the caller does not follow it
  cases ha : d.at? (base ++ [sessionName n] ++ [name]) with
  | none => rfl
  | some node =>
    cases node with
    | directory => simp only [Disk.walk]
    | file bytes => simp only [Disk.walk]
    | link target =>
      cases follow with
      | true => exact absurd ha (hl rfl target)
      | false => rfl

/-- No path leads into a session folder that is not there, or where a file stands in its place. -/
theorem Reached.walk_missing (h : Reached root base d) (follow : Bool)
    (hd : d.at? (base ++ [sessionName n]) ≠ some .directory) (name : String) :
    ∃ trouble, d.walk follow linkLimit [] ((sessionFolder root n).child name).pieces =
      .error trouble := by
  obtain ⟨links, hw⟩ := h.walk
  rw [pieces_entry, hw follow _ (by simp), walk_plain h.goal (isPlain_sessionName n)]
  cases ha : d.at? (base ++ [sessionName n]) with
  | none => exact ⟨_, rfl⟩
  | some node =>
    cases node with
    | directory => exact absurd ha hd
    | file bytes => exact ⟨.notDirectory, walk_stuck hd⟩
    | link target => exact absurd ha (h.noLink n target)

/-- A name that is not plain names no entry, but the folder itself or the directory above. Both
are directories, so making or deleting a file there is refused. -/
theorem Reached.walk_not_plain (h : Reached root base d) (follow : Bool)
    (hd : d.at? (base ++ [sessionName n]) = some .directory) (hp : ¬ IsPlain name) :
    ∃ v, d.walk follow linkLimit [] ((sessionFolder root n).child name).pieces = .ok v ∧
      d.at? v = some .directory := by
  obtain ⟨links, hw⟩ := h.walk
  rw [pieces_entry, hw follow _ (by simp), walk_plain h.goal (isPlain_sessionName n)]
  simp only [hd]
  -- an idle name stays in the folder, and the other one leads out of it
  by_cases hi : Path.isIdle name = true
  · rw [walk_idle hd hi, Disk.walk]
    exact ⟨_, rfl, hd⟩
  · have hup : name = ".." := by
      by_cases hup : name = ".."
      · exact hup
      · exact absurd ⟨by simpa using hi, by simpa using hup⟩ hp
    rw [hup, walk_up hd, Disk.walk, List.dropLast_concat]
    exact ⟨_, rfl, h.goal⟩

/-- Without a way to the root every walk to something below it ends in the same trouble, however
far below. -/
theorem Unled.stuck (h : Unled root d) : ∃ trouble, ∀ follow rest, rest ≠ [] →
    d.walk follow linkLimit [] (root.front ++ rest) = .error trouble := by
  rcases leads_or_stuck d linkLimit [] root.front with ⟨links, goal, trail, hl⟩ | hstuck
  · exact absurd hl (h links goal trail)
  · exact hstuck

/-- Without a way to the root every single walk to something below it ends in trouble. -/
theorem Unled.walk (h : Unled root d) (follow : Bool) {rest : List String} (hr : rest ≠ []) :
    ∃ trouble, d.walk follow linkLimit [] (root.front ++ rest) = .error trouble := by
  obtain ⟨trouble, hw⟩ := h.stuck
  exact ⟨trouble, hw follow rest hr⟩

/-- No session folder is found. -/
theorem Unled.walk_session (h : Unled root d) (follow : Bool) (n : Nat) :
    ∃ trouble, d.walk follow linkLimit [] (sessionFolder root n).pieces = .error trouble := by
  rw [pieces_session]
  exact h.walk follow (by simp)

/-- A session folder resolves to no place at all. -/
theorem Unled.resolve_ne_ok (h : Unled root d) (n : Nat) (v : Place) :
    d.resolve (sessionFolder root n) ≠ .ok v := by
  obtain ⟨trouble, hw⟩ := h.walk_session true n
  intro hv
  cases hv.symm.trans hw

/-- Nothing in a session folder is found either. -/
theorem Unled.walk_entry (h : Unled root d) (follow : Bool) (n : Nat) (name : String) :
    ∃ trouble, d.walk follow linkLimit [] ((sessionFolder root n).child name).pieces =
      .error trouble := by
  rw [pieces_entry]
  exact h.walk follow (by simp)

/-! ## Operations on entries -/

/-- An operation that concerns a session folder changes nothing outside of it, and nothing at all
where the root leads nowhere. -/
structure KeepsTo (root : Path) (n : Nat) (d d' : Disk) : Prop where
  unled : Unled root d → d' = d
  rooted : ∀ base, Rooted root base d → Rooted root base d' ∧ ChangesOnly base n d d'

/-- Doing nothing keeps to any folder. -/
theorem KeepsTo.refl (root : Path) (n : Nat) (d : Disk) : KeepsTo root n d d :=
  ⟨fun _ => rfl, fun base h => ⟨h, ChangesOnly.refl base n d⟩⟩

section Entry

variable {p : Path} {node : Node} {v : Place} {trouble : Trouble}

/-- An entry is made where nothing stands, and a file replaces a file; anything else is refused. -/
theorem make_of_walk (hw : d.walk false linkLimit [] p.pieces = .ok v) :
    d.make p node = match d.at? v, node with
      | none, _ => .ok (d.set v node)
      | some (.file _), .file _ => .ok (d.set v node)
      | some _, _ => .error .notEmpty := by
  unfold make resolveEntry
  rw [hw]
  rfl

/-- Where the walk fails, nothing is made. -/
theorem make_of_error (hw : d.walk false linkLimit [] p.pieces = .error trouble) :
    d.make p node = .error trouble := by
  unfold make resolveEntry
  rw [hw]
  rfl

/-- What is no directory can be deleted, a link just as well as a file. -/
theorem removeFile_of_walk (hw : d.walk false linkLimit [] p.pieces = .ok v) :
    d.removeFile p = match d.at? v with
      | none => .error .notFound
      | some .directory => .error .isDirectory
      | some _ => .ok (d.clear v) := by
  unfold removeFile resolveEntry
  rw [hw]
  rfl

/-- Where the walk fails, nothing is deleted. -/
theorem removeFile_of_error (hw : d.walk false linkLimit [] p.pieces = .error trouble) :
    d.removeFile p = .error trouble := by
  unfold removeFile resolveEntry
  rw [hw]
  rfl

end Entry

/-- Changing an entry of a session folder changes nothing outside of the folder. -/
theorem changesOnly_set (base : Place) (n : Nat) (d : Disk) (name : String) (node : Node) :
    ChangesOnly base n d (d.set (base ++ [sessionName n] ++ [name]) node) := by
  intro v hv
  rw [at?_set, if_neg]
  rintro rfl
  exact hv (List.prefix_append _ _)

/-- Taking an entry of a session folder away changes nothing outside of the folder. -/
theorem changesOnly_clear (base : Place) (n : Nat) (d : Disk) (name : String) :
    ChangesOnly base n d (d.clear (base ++ [sessionName n] ++ [name])) := by
  intro v hv
  rw [at?_clear, if_neg]
  rintro rfl
  exact hv (List.prefix_append _ _)

/-- An entry that is set in a session folder, where there was no directory. -/
theorem Rooted.set_entry (h : Rooted root base d)
    (hd : d.at? (base ++ [sessionName n]) = some .directory) {node : Node}
    (hn : d.at? (base ++ [sessionName n] ++ [name]) ≠ some .directory) :
    Rooted root base (d.set (base ++ [sessionName n] ++ [name]) node) := by
  refine h.changes (changesOnly_set base n d name node) (h.tree.set hd (Or.inr hn)) ?_
  intro target
  rw [at?_set, if_neg (by simp), hd]
  exact fun e => by cases e

/-- What the recorder makes is an entry of the session folder, in the place of nothing or of a
file. The four parts are what the invariants ask: its name, that the folder is there, the new
disk, and that no directory was lost. -/
theorem Reached.make_eq_ok (h : Reached root base d) {node : Node}
    (hm : d.make ((sessionFolder root n).child name) node = .ok d') :
    IsPlain name ∧ d.at? (base ++ [sessionName n]) = some .directory ∧
      d' = d.set (base ++ [sessionName n] ++ [name]) node ∧
      d.at? (base ++ [sessionName n] ++ [name]) ≠ some .directory := by
  by_cases hd : d.at? (base ++ [sessionName n]) = some .directory
  · by_cases hp : IsPlain name
    · rw [make_of_walk (h.walk_entry false hd hp (fun hf => by cases hf))] at hm
      refine ⟨hp, hd, ?_, fun hdir => ?_⟩
      · split at hm
        · exact (Except.ok.inj hm).symm
        · exact (Except.ok.inj hm).symm
        · cases hm
      · simp only [hdir] at hm
        cases hm
    · -- a name that leads elsewhere leads to a directory, in whose place nothing is made
      obtain ⟨v, hw, hv⟩ := h.walk_not_plain false hd hp
      rw [make_of_walk hw] at hm
      simp only [hv] at hm
      cases hm
  · obtain ⟨trouble, hw⟩ := h.walk_missing false hd name
    rw [make_of_error hw] at hm
    cases hm

/-- Making an entry keeps to the folder in which it is made. -/
theorem keepsTo_make {node : Node}
    (hm : d.make ((sessionFolder root n).child name) node = .ok d') : KeepsTo root n d d' where
  unled h := by
    obtain ⟨trouble, hw⟩ := h.walk_entry false n name
    rw [make_of_error hw] at hm
    cases hm
  rooted base h := by
    obtain ⟨-, hd, rfl, hn⟩ := h.reached.make_eq_ok hm
    exact ⟨h.set_entry hd hn, changesOnly_set base n d name node⟩

/-- What a worker deletes is that very entry, and it was no directory. -/
theorem Reached.removeFile_eq_ok (h : Reached root base d) (hp : IsPlain name)
    (hr : d.removeFile ((sessionFolder root n).child name) = .ok d') :
    d.at? (base ++ [sessionName n]) = some .directory ∧
      d' = d.clear (base ++ [sessionName n] ++ [name]) ∧
      d.at? (base ++ [sessionName n] ++ [name]) ≠ some .directory := by
  by_cases hd : d.at? (base ++ [sessionName n]) = some .directory
  · rw [removeFile_of_walk (h.walk_entry false hd hp (fun hf => by cases hf))] at hr
    refine ⟨hd, ?_, fun hdir => ?_⟩
    · split at hr
      · cases hr
      · cases hr
      · exact (Except.ok.inj hr).symm
    · simp only [hdir] at hr
      cases hr
  · obtain ⟨trouble, hw⟩ := h.walk_missing false hd name
    rw [removeFile_of_error hw] at hr
    cases hr

/-- Deleting a file keeps to its folder; where the deletion fails nothing changes. -/
theorem keepsTo_delete (s : Station) (hp : IsPlain name) :
    KeepsTo root n s.disk (s.delete ((sessionFolder root n).child name)).disk := by
  unfold Station.delete
  cases hr : s.disk.removeFile ((sessionFolder root n).child name) with
  | error trouble => exact KeepsTo.refl root n s.disk
  | ok disk =>
    refine ⟨fun h => ?_, fun base h => ?_⟩
    · obtain ⟨trouble, hw⟩ := h.walk_entry false n name
      rw [removeFile_of_error hw] at hr
      cases hr
    · obtain ⟨hd, rfl, hn⟩ := h.reached.removeFile_eq_ok hp hr
      -- nothing lies below what was deleted, since it was no directory, so the disk stays a tree
      refine ⟨h.changes (changesOnly_clear base n s.disk name)
        (h.tree.clear (h.tree.none_below hn)) ?_, changesOnly_clear base n s.disk name⟩
      intro target
      rw [at?_clear, if_neg (by simp), hd]
      exact fun e => by cases e

/-! ## Being done with a folder -/

section Folder

variable {p : Path} {v : Place} {trouble : Trouble}

/-- A directory is listed with the kinds of its entries; of anything else there is no list. -/
theorem list_of_walk (hw : d.walk true linkLimit [] p.pieces = .ok v) :
    d.list p = match d.at? v with
      | none => .error .notFound
      | some .directory => .ok ((d.entriesAt v).map fun e => (e.1, e.2.kind))
      | some _ => .error .notDirectory := by
  unfold list resolve
  rw [hw]
  rfl

/-- Where the walk fails, there is no list. -/
theorem list_of_error (hw : d.walk true linkLimit [] p.pieces = .error trouble) :
    d.list p = .error trouble := by
  unfold list resolve
  rw [hw]
  rfl

/-- A path that ends in a session folder has no slash at its end. -/
theorem trim_session (root : Path) (n : Nat) :
    ((sessionFolder root n).pieces.reverse.dropWhile (· == "")).reverse =
      (sessionFolder root n).pieces := by
  have hne : (sessionName n == "") = false := by simpa using (isPlain_sessionName n).ne_empty
  rw [pieces_session, List.reverse_append, List.reverse_singleton, List.singleton_append,
    List.dropWhile_cons, hne]
  simp

/-- A directory is removed if it is empty. That the path ends neither in a slash nor in a dot is
what makes this the operation on the folder itself. -/
theorem removeDirectory_of_walk
    (hw : d.walk false linkLimit [] (sessionFolder root n).pieces = .ok v) :
    d.removeDirectory (sessionFolder root n) = match d.at? v with
      | none => .error .notFound
      | some .directory =>
        if (d.entriesAt v).isEmpty then .ok (d.clear v) else .error .notEmpty
      | some _ => .error .notDirectory := by
  have hdot : ((sessionFolder root n).pieces.getLast? == some ".") = false := by
    rw [pieces_session, List.getLast?_concat]
    simpa using (isPlain_sessionName n).ne_dot
  unfold removeDirectory
  rw [trim_session]
  dsimp only
  rw [hw, hdot]
  rfl

/-- Where the walk fails, nothing is removed. -/
theorem removeDirectory_of_error
    (hw : d.walk false linkLimit [] (sessionFolder root n).pieces = .error trouble) :
    d.removeDirectory (sessionFolder root n) = .error trouble := by
  unfold removeDirectory
  rw [trim_session]
  dsimp only
  rw [hw]
  rfl

end Folder

/-- What becomes of a session folder that a job is done with hangs on what stands there: it is
finished for good if nothing does, or an empty directory, which is removed; it is kept for
another pass if there is anything in it, or if it is no directory. -/
theorem Rooted.settle (h : Rooted root base d) (n : Nat) :
    d.settle (sessionFolder root n) = match d.at? (base ++ [sessionName n]) with
      | none => (d, .finishedSuccessfully)
      | some .directory =>
        if (d.entriesAt (base ++ [sessionName n])).isEmpty then
          (d.clear (base ++ [sessionName n]), .finishedSuccessfully)
        else (d, .finishedUnsuccessfully)
      | some _ => (d, .finishedUnsuccessfully) := by
  unfold Disk.settle isEmptyDirectory removeIfThere
  rw [list_of_walk (h.reached.walk_session true n),
    removeDirectory_of_walk (h.reached.walk_session false n)]
  cases ha : d.at? (base ++ [sessionName n]) with
  | none => rfl
  | some node =>
    cases node with
    | directory =>
      simp only [List.isEmpty_map]
      cases he : (d.entriesAt (base ++ [sessionName n])).isEmpty <;> rfl
    | file bytes => rfl
    | link target => rfl

/-- Being done with a folder keeps to it: at most the folder itself is removed, and only if it is
empty. -/
theorem keepsTo_settle (root : Path) (n : Nat) (d : Disk) :
    KeepsTo root n d (d.settle (sessionFolder root n)).1 where
  unled h := by
    obtain ⟨trouble, hw⟩ := h.walk_session true n
    obtain ⟨trouble', hw'⟩ := h.walk_session false n
    unfold Disk.settle isEmptyDirectory removeIfThere
    rw [list_of_error hw, removeDirectory_of_error hw']
    -- neither listing nor removing finds anything, and whichever way they fail, the disk is not
    -- touched
    cases trouble <;> cases trouble' <;> rfl
  rooted base h := by
    rw [h.settle]
    split
    · exact ⟨h, ChangesOnly.refl base n d⟩
    · next hd =>
      split
      · next he =>
        have hnone := (entriesAt_isEmpty_iff h.tree).1 he
        have hc : ChangesOnly base n d (d.clear (base ++ [sessionName n])) := by
          intro v hv
          rw [at?_clear, if_neg]
          rintro rfl
          exact hv (List.prefix_refl _)
        refine ⟨h.changes hc (h.tree.clear hnone) fun target => ?_, hc⟩
        rw [at?_clear, if_pos rfl]
        exact fun e => by cases e
      · exact ⟨h, ChangesOnly.refl base n d⟩
    · exact ⟨h, ChangesOnly.refl base n d⟩

/-- A job that is done with one folder judges it, or leaves all as it is. -/
theorem keepsTo_finishOne (root : Path) (n : Nat) (d : Disk) (reg : Registry) :
    KeepsTo root n d (Registry.finishOne (d, reg) (sessionFolder root n)).1 := by
  simp only [Registry.finishOne]
  split
  · exact keepsTo_settle root n d
  · exact KeepsTo.refl root n d

/-- A folder with an entry in it stays, and is not finished for good. This is why a recording
that was not delivered is never removed with its folder. -/
theorem Rooted.settle_of_entry (h : Rooted root base d) {node : Node}
    (ha : d.at? (base ++ [sessionName n] ++ [name]) = some node) :
    d.settle (sessionFolder root n) = (d, .finishedUnsuccessfully) := by
  have hd := h.tree.parent _ _ _ ha
  have he : (d.entriesAt (base ++ [sessionName n])).isEmpty = false := by
    rw [← Bool.not_eq_true, entriesAt_isEmpty_iff h.tree]
    intro hnone
    rw [hnone name] at ha
    cases ha
  rw [h.settle, hd]
  simp only [he, Bool.false_eq_true, if_false]

/-! ## Starting a session -/

section Start

variable {p : Path} {v : Place} {trouble : Trouble}

/-- What the path leads to, if the walk ends somewhere and something stands there. -/
theorem find_of_walk (hw : d.walk true linkLimit [] p.pieces = .ok v) :
    d.find p = (d.at? v).elim (.error .notFound) .ok := by
  unfold find resolve
  rw [hw]
  dsimp only [bind, Except.bind]
  cases d.at? v <;> rfl

/-- The question whether a path exists is answered by what stands at the end of the walk. -/
theorem tryExists_of_walk (hw : d.walk true linkLimit [] p.pieces = .ok v) :
    d.tryExists p = .ok (d.at? v).isSome := by
  unfold tryExists
  rw [find_of_walk hw]
  cases d.at? v <;> rfl

/-- A walk that fails never makes a path exist: the answer is no, or an error. -/
theorem tryExists_of_error (hw : d.walk true linkLimit [] p.pieces = .error trouble) :
    d.tryExists p ≠ .ok true := by
  unfold tryExists find resolve
  rw [hw]
  cases trouble <;> exact fun e => by cases e

/-- A tree is removed in two steps: what is inside goes first, and then the directory is looked
up once more by its path. If it is not found any more, because the path led through it, it stays
as an empty directory. -/
theorem removeTree_of_walk (hw : d.walk false linkLimit [] p.pieces = .ok v) :
    d.removeTree p = match d.at? v with
      | none => .error .notFound
      | some (.file _) => .error .notDirectory
      | some (.link _) => .ok (d.clear v)
      | some .directory => match (d.clearInside v).resolveEntry p with
        | .ok _ => .ok (d.clearBelow v)
        | .error _ => .ok (d.clearInside v) := by
  unfold removeTree resolveEntry
  rw [hw]
  rfl

/-- A file is written in the place of anything but a directory. -/
theorem write_of_walk {bytes : Bytes} (hw : d.walk true linkLimit [] p.pieces = .ok v) :
    d.write p bytes = match d.at? v with
      | some .directory => .error .isDirectory
      | _ => .ok (d.set v (.file bytes)) := by
  unfold write resolve
  rw [hw]
  rfl

/-- Where the walk fails, nothing is written. -/
theorem write_of_error {bytes : Bytes}
    (hw : d.walk true linkLimit [] p.pieces = .error trouble) :
    d.write p bytes = .error trouble := by
  unfold write resolve
  rw [hw]
  rfl

end Start

/-- Removing a folder with all that is in it changes nothing outside. -/
theorem changesOnly_clearBelow (base : Place) (n : Nat) (d : Disk) :
    ChangesOnly base n d (d.clearBelow (base ++ [sessionName n])) := by
  intro v hv
  rw [at?_clearBelow, if_neg hv]

/-- Emptying a folder changes nothing outside. -/
theorem changesOnly_clearInside (base : Place) (n : Nat) (d : Disk) :
    ChangesOnly base n d (d.clearInside (base ++ [sessionName n])) := by
  intro v hv
  rw [at?_clearInside, if_neg fun h => hv h.1]

/-- A session folder is found again when it is empty, since the way to it does not go through it.
So the second step of a removal finds it. -/
theorem Rooted.resolveEntry_clearInside (h : Rooted root base d)
    (hd : d.at? (base ++ [sessionName n]) = some .directory) :
    (d.clearInside (base ++ [sessionName n])).resolveEntry (sessionFolder root n) =
      .ok (base ++ [sessionName n]) := by
  have hthere : (d.clearInside (base ++ [sessionName n])).at? (base ++ [sessionName n]) =
      some .directory := by
    rw [at?_clearInside, if_neg fun h => h.2 rfl, hd]
  have hr : Rooted root base (d.clearInside (base ++ [sessionName n])) :=
    h.changes (changesOnly_clearInside base n d) (h.tree.clearInside _) fun target he => by
      rw [hthere] at he
      cases he
  exact hr.reached.walk_session false n

/-- Before a session starts, its folder is removed if one is there. A file in its place is left
alone, and the start fails on it. -/
theorem Rooted.prepare_eq (h : Rooted root base d) (n : Nat) :
    d.prepare (sessionFolder root n) = match d.at? (base ++ [sessionName n]) with
      | some .directory => d.clearBelow (base ++ [sessionName n])
      | _ => d := by
  unfold Disk.prepare
  rw [tryExists_of_walk (h.reached.walk_session true n),
    removeTree_of_walk (h.reached.walk_session false n)]
  cases ha : d.at? (base ++ [sessionName n]) with
  | none => rfl
  | some node =>
    cases node with
    | directory => simp only [Option.isSome_some, h.resolveEntry_clearInside ha]
    | file bytes => rfl
    | link target => exact absurd ha (h.noLink n target)

/-- A stray session folder is gone before the session starts, the way to the recordings is not,
and nothing else has changed. -/
theorem Rooted.prepare (h : Rooted root base d) (n : Nat) :
    Rooted root base (d.prepare (sessionFolder root n)) ∧
      ChangesOnly base n d (d.prepare (sessionFolder root n)) ∧
      (d.prepare (sessionFolder root n)).at? (base ++ [sessionName n]) ≠ some .directory := by
  rw [h.prepare_eq n]
  split
  · have hc := changesOnly_clearBelow base n d
    have hnone : (d.clearBelow (base ++ [sessionName n])).at? (base ++ [sessionName n]) =
        none := by
      rw [at?_clearBelow, if_pos (List.prefix_refl _)]
    refine ⟨h.changes hc (h.tree.clearBelow base _) fun target => ?_, hc, ?_⟩
    · rw [hnone]
      exact fun e => by cases e
    · rw [hnone]
      exact fun e => by cases e
  · next hnot => exact ⟨h, ChangesOnly.refl base n d, hnot⟩

/-- Without a way to the root there is nothing to remove. -/
theorem Unled.prepare (h : Unled root d) (n : Nat) : d.prepare (sessionFolder root n) = d := by
  obtain ⟨trouble, hw⟩ := h.walk_session true n
  unfold Disk.prepare
  split
  · next ht => exact absurd ht (tryExists_of_error hw)
  · rfl

/-- Making a session folder makes nothing but the folder: the way to it is there already, so none
of the directories above is made. -/
theorem Rooted.makeDirectories (h : Rooted root base d) (n : Nat) :
    d.makeDirectories (sessionFolder root n) = match d.at? (base ++ [sessionName n]) with
      | none => .ok (d.set (base ++ [sessionName n]) .directory)
      | some .directory => .ok d
      | some _ => .error .notDirectory := by
  obtain ⟨links, trail, hleads, -⟩ := h.way
  unfold Disk.makeDirectories
  rw [pieces_session, makeAlong_of_leads hleads (Nat.zero_le _),
    makeAlong_plain h.goal (isPlain_sessionName n)]
  cases ha : d.at? (base ++ [sessionName n]) with
  | none =>
    have hmade : (d.set (base ++ [sessionName n]) .directory).isDirectoryAt
        (base ++ [sessionName n]) = true := by
      rw [isDirectoryAt_iff, at?_set, if_pos rfl]
    simp only [Nat.lt_irrefl, if_false, makeAlong, hmade, if_true]
  | some node =>
    cases node with
    | directory => simp only [makeAlong, isDirectoryAt_iff.2 ha, if_true]
    | file bytes =>
      -- a file in the place of the folder can neither be entered nor replaced
      simp only []
      rw [makeAlong_stuck (by rw [ha]; exact fun e => by cases e)]
    | link target => exact absurd ha (h.noLink n target)

/-- A new session folder changes nothing outside of itself. -/
theorem Rooted.set_session (h : Rooted root base d) (n : Nat) :
    Rooted root base (d.set (base ++ [sessionName n]) .directory) ∧
      ChangesOnly base n d (d.set (base ++ [sessionName n]) .directory) := by
  have hc : ChangesOnly base n d (d.set (base ++ [sessionName n]) .directory) := by
    intro v hv
    rw [at?_set, if_neg]
    rintro rfl
    exact hv (List.prefix_refl _)
  refine ⟨h.changes hc (h.tree.set h.goal (Or.inl rfl)) fun target => ?_, hc⟩
  rw [at?_set, if_pos rfl]
  exact fun e => by cases e

/-- A session folder with nothing in it but files. It is what the recorder needs in order to
write into it: no directory is in the way of a file, and no link leads out. -/
structure Fresh (root : Path) (base : Place) (n : Nat) (d : Disk) : Prop where
  rooted : Rooted root base d
  folder : d.at? (base ++ [sessionName n]) = some .directory
  files : ∀ name node, d.at? (base ++ [sessionName n] ++ [name]) = some node →
    ∃ bytes, node = .file bytes

/-- What the recorder drops into a fresh folder stays in it. A name that leads out of the folder
leads to a directory, where no file is written. -/
theorem Fresh.drop (h : Fresh root base n d) (name : String) :
    Fresh root base n (Recorder.drop (sessionFolder root n) d name) ∧
      ChangesOnly base n d (Recorder.drop (sessionFolder root n) d name) := by
  have hsame : Fresh root base n d ∧ ChangesOnly base n d d := ⟨h, ChangesOnly.refl base n d⟩
  unfold Recorder.drop
  by_cases hp : IsPlain name
  · -- a fresh folder holds files only, so no link and no directory is in the way
    have hl : ∀ target, d.at? (base ++ [sessionName n] ++ [name]) ≠ some (.link target) := by
      intro target hn
      obtain ⟨bytes, hb⟩ := h.files name _ hn
      cases hb
    have hdir : d.at? (base ++ [sessionName n] ++ [name]) ≠ some .directory := by
      intro hn
      obtain ⟨bytes, hb⟩ := h.files name _ hn
      cases hb
    rw [write_of_walk (h.rooted.reached.walk_entry true h.folder hp fun _ => hl)]
    split
    · next d' hd' =>
      split at hd'
      · cases hd'
      obtain rfl := Except.ok.inj hd'
      refine ⟨⟨h.rooted.set_entry h.folder hdir, ?_, fun m node hm => ?_⟩,
        changesOnly_set base n d name _⟩
      · rw [at?_set, if_neg (by simp), h.folder]
      · rw [at?_set] at hm
        split at hm
        · exact ⟨_, (Option.some.inj hm).symm⟩
        · exact h.files m node hm
    · exact hsame
  · obtain ⟨v, hw, hv⟩ := h.rooted.reached.walk_not_plain true h.folder hp
    rw [write_of_walk hw, hv]
    exact hsame

/-- All files that the recorder drops into a fresh folder stay in it, one after the other. -/
theorem Fresh.drops (h : Fresh root base n d) (names : List String) :
    Fresh root base n (names.foldl (Recorder.drop (sessionFolder root n)) d) ∧
      ChangesOnly base n d (names.foldl (Recorder.drop (sessionFolder root n)) d) := by
  induction names generalizing d with
  | nil => exact ⟨h, ChangesOnly.refl base n d⟩
  | cons name later ih =>
    obtain ⟨hfresh, hc⟩ := h.drop name
    obtain ⟨hlater, hc'⟩ := ih hfresh
    exact ⟨hlater, hc.trans hc'⟩

/-- Nothing is dropped where there is no folder. -/
theorem drops_of_error {names : List String}
    (hw : ∀ name, ∃ trouble, d.walk true linkLimit []
      ((sessionFolder root n).child name).pieces = .error trouble) :
    names.foldl (Recorder.drop (sessionFolder root n)) d = d := by
  induction names with
  | nil => rfl
  | cons name later ih =>
    obtain ⟨trouble, hw⟩ := hw name
    have hdrop : Recorder.drop (sessionFolder root n) d name = d := by
      unfold Recorder.drop
      rw [write_of_error hw]
    rw [List.foldl_cons, hdrop, ih]

/-- The start of a session changes nothing outside of its folder, and the way to the recordings
is there afterwards. It removes the folder, makes it anew, and drops the files of the recorder. -/
theorem rooted_start (h : Rooted root base d) (r : Recorder) (n : Nat) :
    Rooted root base
        (r.onDisk (d.prepare (sessionFolder root n)) (.start (sessionFolder root n))) ∧
      ChangesOnly base n d
        (r.onDisk (d.prepare (sessionFolder root n)) (.start (sessionFolder root n))) := by
  -- no directory is left at the place, so the folder is made anew or a file stands in its way
  obtain ⟨hr, hc, hnot⟩ := h.prepare n
  generalize d.prepare (sessionFolder root n) = d₁ at hr hc hnot
  unfold Recorder.onDisk
  dsimp only
  rw [hr.makeDirectories n]
  cases ha : d₁.at? (base ++ [sessionName n]) with
  | none =>
    obtain ⟨hr', hc'⟩ := hr.set_session n
    have hfresh : Fresh root base n (d₁.set (base ++ [sessionName n]) .directory) := by
      refine ⟨hr', by rw [at?_set, if_pos rfl], fun name node hn => ?_⟩
      rw [at?_set, if_neg (by simp), hr.tree.none_below (by rw [ha]; exact fun e => by cases e)]
        at hn
      cases hn
    obtain ⟨hdrops, hc''⟩ := hfresh.drops r.drops
    exact ⟨hdrops.rooted, hc.trans (hc'.trans hc'')⟩
  | some node =>
    cases node with
    | directory => exact absurd ha hnot
    | file bytes =>
      show Rooted root base (r.drops.foldl _ d₁) ∧ ChangesOnly base n d (r.drops.foldl _ d₁)
      rw [drops_of_error fun name => hr.reached.walk_missing true hnot name]
      exact ⟨hr, hc⟩
    | link target => exact absurd ha (hr.noLink n target)

end PushToTalk.Disk
