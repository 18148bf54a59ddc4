import PushToTalk.Proofs.Disk.Session
import PushToTalk.Proofs.Registry

/-
  An entry of a session folder, as everyone who meets it sees it.

  The same file is met in four ways: the recorder makes it under a name, a scan lists it, a worker
  reads it by its path, and a job that is done with its folder asks whether anything is left.  What
  stands in a session folder under a plain name is the same thing in all of them.  It is what the
  path of the entry leads to (`entry?`), what a worker reads there, and what a scan lists.  As long
  as it stands there, a job that is done leaves the folder on the disk and in the registry.

  1. **One place** — where the root leads past the session folders, the entry `name` of folder `n`
     stands at `base ++ [sessionName n] ++ [name]`, and at no other entry's place.

  2. **While something else happens** — changes of other session folders, the deletion of another
     entry, and the judgement of any folder leave it as it is.  A folder with an entry is not empty,
     so it is neither removed nor given up (`Rooted.finish_keeps`).

  A link that stands under the name of an entry is not followed by `entry?`, and a scan does not
  list it.

  Main statements: `Rooted.entry?_iff`, `Rooted.recording_spec` and `Rooted.finish_keeps`.
-/

namespace PushToTalk.Disk

open PushToTalk.Path (IsPlain)

/-- What stands where a path leads to, a link at its end left alone. -/
def entry? (d : Disk) (p : Path) : Option Node :=
  match d.resolveEntry p with
  | .ok place => d.at? place
  | .error _ => none

variable {root : Path} {base : Place} {d d' : Disk} {m n : Nat} {name other : String} {node : Node}

/-- The path of an entry leads to what stands in the folder under its name. -/
theorem Rooted.entry?_iff (h : Rooted root base d) (hp : IsPlain name) :
    d.entry? ((sessionFolder root n).child name) = some node ↔
      d.at? (base ++ [sessionName n] ++ [name]) = some node := by
  unfold entry? resolveEntry
  by_cases hd : d.at? (base ++ [sessionName n]) = some .directory
  · rw [h.reached.walk_entry false hd hp fun hf => by cases hf]
  · obtain ⟨trouble, hw⟩ := h.reached.walk_missing false hd name
    rw [hw, h.tree.none_below hd]

/-- Where the root leads nowhere, no session folder has an entry. -/
theorem Unled.entry? (h : Unled root d) (n : Nat) (name : String) :
    d.entry? ((sessionFolder root n).child name) = none := by
  obtain ⟨trouble, hw⟩ := h.walk_entry false n name
  unfold Disk.entry? resolveEntry
  rw [hw]

/-- Two entries of session folders stand at one place only if they are one entry. -/
theorem entry_place_injective
    (h : base ++ [sessionName m] ++ [name] = base ++ [sessionName n] ++ [other]) :
    m = n ∧ name = other := by
  simp only [List.append_assoc, List.append_cancel_left_eq, List.cons_append, List.nil_append,
    List.cons.injEq, and_true] at h
  exact ⟨sessionName_injective h.1, h.2⟩

/-- Reading a file of a session folder gives its bytes. -/
theorem Rooted.read_entry (h : Rooted root base d) (hp : IsPlain name) {bytes : Bytes}
    (ha : d.at? (base ++ [sessionName n] ++ [name]) = some (.file bytes)) :
    d.read ((sessionFolder root n).child name) = .ok bytes := by
  have hw := h.reached.walk_entry true (h.tree.parent _ _ _ ha) hp fun _ target => by
    rw [ha]
    exact fun e => by cases e
  unfold read
  rw [find_of_walk hw, ha]
  rfl

/-- What a scan lists in a session folder stands there as a file. -/
theorem Rooted.recording_spec (h : Rooted root base d) {p : Path}
    (hp : p ∈ d.recordingsIn (sessionFolder root n)) :
    ∃ name bytes, IsPlain name ∧ p = (sessionFolder root n).child name ∧
      d.at? (base ++ [sessionName n] ++ [name]) = some (.file bytes) ∧
      p.extension? = some "wav" := by
  obtain ⟨name, entries, hname, rfl, hl, hmem, hext⟩ := recordingsIn_spec hp
  rw [list_of_walk (h.reached.walk_session true n)] at hl
  split at hl
  · cases hl
  · obtain rfl := Except.ok.inj hl
    obtain ⟨⟨name', node⟩, hin, he⟩ := List.mem_map.1 hmem
    obtain ⟨rfl, hkind⟩ := Prod.mk.inj he
    have ha := (mem_entriesAt_iff h.tree).1 hin
    cases node with
    | file bytes => exact ⟨name', bytes, hname, rfl, ha, hext⟩
    | directory => cases hkind
    | link target => cases hkind
  · cases hl

/-! ## While something else happens -/

/-- An entry stays as it is while another session folder changes. -/
theorem ChangesOnly.entry (h : ChangesOnly base n d d') (hne : m ≠ n) (name : String) :
    d'.at? (base ++ [sessionName m] ++ [name]) = d.at? (base ++ [sessionName m] ++ [name]) := by
  rw [List.append_assoc]
  exact h _ (not_prefix_session base hne [name])

/-- An entry comes through the deletion of another one. -/
theorem Rooted.delete_keeps {s : Station} (h : Rooted root base s.disk) (hp : IsPlain other)
    (hne : (sessionFolder root m).child other ≠ (sessionFolder root n).child name) :
    (s.delete ((sessionFolder root m).child other)).disk.at?
        (base ++ [sessionName n] ++ [name]) =
      s.disk.at? (base ++ [sessionName n] ++ [name]) := by
  unfold Station.delete
  cases hr : s.disk.removeFile ((sessionFolder root m).child other) with
  | error trouble => rfl
  | ok disk =>
    obtain ⟨-, rfl, -⟩ := h.reached.removeFile_eq_ok hp hr
    show (s.disk.clear (base ++ [sessionName m] ++ [other])).at? _ = _
    rw [at?_clear, if_neg]
    intro he
    obtain ⟨rfl, rfl⟩ := entry_place_injective he
    exact hne rfl

/-- The folder is registered, and not given up. -/
def Listed (root : Path) (n : Nat) (reg : Registry) : Prop :=
  ∃ f ∈ reg.folders, f.path = sessionFolder root n ∧ f.state ≠ .finishedSuccessfully

/-- A job that is done with a session folder keeps every entry in session folders, and every
folder with an entry. -/
theorem Rooted.finishOne_keeps (h : Rooted root base d) {reg : Registry} (hr : reg.Distinct)
    (ha : d.at? (base ++ [sessionName n] ++ [name]) = some node) (hl : Listed root n reg)
    (m : Nat) :
    (Registry.finishOne (d, reg) (sessionFolder root m)).1.at?
        (base ++ [sessionName n] ++ [name]) = some node ∧
      Listed root n (Registry.finishOne (d, reg) (sessionFolder root m)).2 := by
  simp only [Registry.finishOne]
  split
  swap
  · exact ⟨ha, hl⟩
  obtain ⟨f, hf, hpath, hstate⟩ := hl
  unfold Listed
  rw [Registry.setState_folders hr]
  -- the folder with the entry is not empty, and the others are not its own
  by_cases hmn : n = m
  · obtain rfl := hmn
    rw [h.settle_of_entry ha]
    refine ⟨ha, _, List.mem_map_of_mem hf, ?_⟩
    rw [hpath, Path.beq_refl, if_pos rfl]
    exact ⟨rfl, FolderState.noConfusion⟩
  · refine ⟨?_, _, List.mem_map_of_mem hf, ?_⟩
    · rw [(((keepsTo_settle root m d).rooted base h).2.entry hmn name), ha]
    · rw [hpath, if_neg fun hb => hmn (sessionFolder_beq.1 hb)]
      exact ⟨hpath, hstate⟩

/-- A job that is done keeps every entry in session folders, and every folder with an entry. -/
theorem Rooted.finish_keeps (h : Rooted root base d) {reg : Registry} (hr : reg.Distinct)
    (ha : d.at? (base ++ [sessionName n] ++ [name]) = some node) (hl : Listed root n reg)
    {paths : List Path} (hp : ∀ p ∈ paths, ∃ m, p = sessionFolder root m) :
    (Registry.finish d reg paths).1.at? (base ++ [sessionName n] ++ [name]) = some node ∧
      Listed root n (Registry.finish d reg paths).2 := by
  -- one folder after the other, each on the disk that the last one has left
  induction paths generalizing d reg with
  | nil => exact ⟨ha, hl⟩
  | cons p later ih =>
    obtain ⟨m, rfl⟩ := hp p List.mem_cons_self
    obtain ⟨ha', hl'⟩ := h.finishOne_keeps hr ha hl m
    obtain ⟨-, g, hg, hjudge⟩ := Registry.finishOne_judges d hr (sessionFolder root m)
    exact ih ((keepsTo_finishOne root m d reg).rooted base h).1
      (hr.of_map (fun f hf => (hjudge f hf).1) hg) ha' hl'
      fun q hq => hp q (List.mem_cons_of_mem _ hq)

end PushToTalk.Disk
