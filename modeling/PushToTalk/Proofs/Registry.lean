import Mathlib.Data.List.Pairwise
import PushToTalk.Station
import PushToTalk.Proofs.Path

/-
  The registry of session folders under its operations.

  The registry says which folder is recorded into, which folders are with a job and which are done.
  Jobs report the paths of their folders, not the folders, so what a report changes is found by
  comparing paths.  This is safe as long as no two registered paths are the same (`Distinct`).

  1. **States** — setting a state changes exactly the folder of that path (`setState_folders`).

  2. **Judging** — a job that is done judges exactly the folders that it names: each of them is
     finished afterwards, one way or the other, and all others are as they were (`finish_judges`).
     The induction is on the paths that are reported, and `Judges` is what one path and a list of
     them have in common; a path may be reported twice, and then the last verdict stands.

  Which of the two verdicts a folder gets hangs on the disk, and is the matter of `Disk.Outcome`.

  Main statements: `setState_folders` and `finish_judges`.
-/

namespace PushToTalk

/-- Finished for good or with something left over. -/
def FolderState.IsFinished (s : FolderState) : Prop :=
  s = .finishedSuccessfully ∨ s = .finishedUnsuccessfully

/-- A finished folder is with no job. -/
theorem FolderState.IsFinished.ne_processing {s : FolderState} (h : s.IsFinished) :
    s ≠ .processing := by
  rcases h with rfl | rfl <;> decide

namespace Registry

/-- No two registered folders share a path. -/
def Distinct (r : Registry) : Prop := r.folders.Pairwise fun f g => (f.path == g.path) = false

/-- A path is registered once. -/
theorem Distinct.unique {r : Registry} (h : r.Distinct) {f g : Folder} (hf : f ∈ r.folders)
    (hg : g ∈ r.folders) (hp : (f.path == g.path) = true) : f = g := by
  refine Classical.byContradiction fun hne => ?_
  have _ : Std.Symm fun f g : Folder => (f.path == g.path) = false :=
    ⟨fun _ _ hxy => BEq.symm_false hxy⟩
  have hfalse : (f.path == g.path) = false := List.Pairwise.forall h hf hg hne
  rw [hp] at hfalse
  cases hfalse

/-- The search for the folder of a path changes one folder, which is all that the path belongs
to. -/
theorem setStateGo_eq_map (path : Path) (state : FolderState) {folders : List Folder}
    (h : folders.Pairwise fun f g => (f.path == g.path) = false) :
    setState.go path state folders =
      folders.map fun f => if f.path == path then { f with state } else f := by
  induction folders with
  | nil => rfl
  | cons f rest ih =>
    obtain ⟨hf, hrest⟩ := List.pairwise_cons.1 h
    rw [setState.go, List.map_cons]
    split
    · next hp =>
      -- every later folder has another path, so the map changes none of them
      have hkeep : rest.map (fun g => if g.path == path then { g with state } else g) = rest := by
        refine (List.map_congr_left fun g hg => ?_).trans (List.map_id _)
        have hne : (g.path == path) = false :=
          BEq.neq_of_neq_of_beq (BEq.symm_false (hf g hg)) hp
        simp [hne]
      rw [hkeep]
    · rw [ih hrest]

/-- Setting a state changes the folder of that path only. -/
theorem setState_folders {r : Registry} (h : r.Distinct) (path : Path) (state : FolderState) :
    (r.setState path state).folders =
      r.folders.map fun f => if f.path == path then { f with state } else f :=
  setStateGo_eq_map path state h

/-! ## Judging -/

/-- What becomes of a folder when a job is done with the given paths. -/
def Judges (paths : List Path) (f f' : Folder) : Prop :=
  f'.path = f.path ∧
    ((∃ p ∈ paths, (f.path == p) = true) → f'.state.IsFinished) ∧
    ((∀ p ∈ paths, (f.path == p) = false) → f' = f)

/-- Whatever the disk says of a folder, it is finished. -/
theorem settle_isFinished (d : Disk) (path : Path) : (d.settle path).2.IsFinished := by
  unfold Disk.settle
  split
  · split
    · exact Or.inl rfl
    · exact Or.inr rfl
  · exact Or.inr rfl

/-- One path of a job is judged. -/
theorem finishOne_judges (d : Disk) {r : Registry} (h : r.Distinct) (path : Path) :
    (finishOne (d, r) path).2.active = r.active ∧
      ∃ g : Folder → Folder, (finishOne (d, r) path).2.folders = r.folders.map g ∧
        ∀ f ∈ r.folders, Judges [path] f (g f) := by
  simp only [finishOne]
  split
  · refine ⟨rfl, _, setState_folders h path (d.settle path).2, fun f _ => ⟨?_, ?_, ?_⟩⟩
    · split <;> rfl
    · rintro ⟨p, hp, hfp⟩
      obtain rfl := List.mem_singleton.1 hp
      simp only [hfp, if_true]
      exact settle_isFinished d p
    · intro hnone
      simp [hnone path List.mem_cons_self]
  · next hs =>
    refine ⟨rfl, id, (List.map_id _).symm, fun f hf => ⟨rfl, ?_, fun _ => rfl⟩⟩
    rintro ⟨p, hp, hfp⟩
    obtain rfl := List.mem_singleton.1 hp
    refine absurd ?_ hs
    unfold stateOf?
    rw [Option.isSome_map, List.find?_isSome]
    exact ⟨f, hf, hfp⟩

/-- Changing folders without their paths keeps these distinct. -/
theorem Distinct.of_map {r r' : Registry} (h : r.Distinct) {g : Folder → Folder}
    (hg : ∀ f ∈ r.folders, (g f).path = f.path) (he : r'.folders = r.folders.map g) :
    r'.Distinct := by
  unfold Distinct
  rw [he, List.pairwise_map]
  refine List.Pairwise.imp_of_mem ?_ h
  intro a b ha hb hab
  rw [hg a ha, hg b hb]
  exact hab

/-- Judging a path keeps the paths that are registered. -/
theorem finishOne_paths (d : Disk) {r : Registry} (h : r.Distinct) (path : Path)
    {P : Path → Prop} (hP : ∀ f ∈ r.folders, P f.path) :
    (finishOne (d, r) path).2.Distinct ∧
      ∀ f ∈ (finishOne (d, r) path).2.folders, P f.path := by
  obtain ⟨-, g, hg, hjudge⟩ := finishOne_judges d h path
  refine ⟨h.of_map (fun f hf => (hjudge f hf).1) hg, fun f' hf' => ?_⟩
  rw [hg] at hf'
  obtain ⟨f, hf, rfl⟩ := List.mem_map.1 hf'
  rw [(hjudge f hf).1]
  exact hP f hf

/-- A job that is done does not change which folder is being recorded into. -/
theorem finish_active (d : Disk) (r : Registry) (paths : List Path) :
    (finish d r paths).2.active = r.active := by
  induction paths generalizing d r with
  | nil => rfl
  | cons path later ih =>
    have hfirst : (finishOne (d, r) path).2.active = r.active := by
      unfold finishOne
      dsimp only
      split <;> rfl
    exact (ih (finishOne (d, r) path).1 (finishOne (d, r) path).2).trans hfirst

/-- A job that is done judges every folder that it names, and no other. -/
theorem finish_judges (d : Disk) {r : Registry} (h : r.Distinct) (paths : List Path) :
    (finish d r paths).2.active = r.active ∧
      ∃ g : Folder → Folder, (finish d r paths).2.folders = r.folders.map g ∧
        ∀ f ∈ r.folders, Judges paths f (g f) := by
  induction paths generalizing d r with
  | nil =>
    refine ⟨rfl, id, (List.map_id _).symm, fun f _ => ⟨rfl, ?_, fun _ => rfl⟩⟩
    rintro ⟨p, hp, -⟩
    exact absurd hp List.not_mem_nil
  | cons path later ih =>
    obtain ⟨hactive, g, hg, hjudge⟩ := finishOne_judges d h path
    have hd : (finishOne (d, r) path).2.Distinct :=
      h.of_map (fun f hf => (hjudge f hf).1) hg
    obtain ⟨hactive', g', hg', hjudge'⟩ := ih (finishOne (d, r) path).1 hd
    refine ⟨hactive'.trans hactive, g' ∘ g, ?_, fun f hf => ?_⟩
    · show (finish (finishOne (d, r) path).1 (finishOne (d, r) path).2 later).2.folders = _
      rw [hg', hg, List.map_map]
    · obtain ⟨hp, hin, hout⟩ := hjudge f hf
      have hmem : g f ∈ (finishOne (d, r) path).2.folders := hg ▸ List.mem_map_of_mem hf
      obtain ⟨hp', hin', hout'⟩ := hjudge' (g f) hmem
      refine ⟨hp'.trans hp, ?_, ?_⟩
      · rintro ⟨p, hpm, hfp⟩
        by_cases hl : ∃ q ∈ later, ((g f).path == q) = true
        · exact hin' hl
        · -- only the first path names the folder, and what follows leaves its verdict alone
          have hsame : g' (g f) = g f := by
            refine hout' fun q hq => ?_
            cases hb : (g f).path == q with
            | true => exact absurd ⟨q, hq, hb⟩ hl
            | false => rfl
          have hfirst : p = path := by
            rcases List.mem_cons.1 hpm with e | e
            · exact e
            · exact absurd ⟨p, e, hp ▸ hfp⟩ hl
          show (g' (g f)).state.IsFinished
          rw [hsame]
          exact hin ⟨path, List.mem_cons_self, hfirst ▸ hfp⟩
      · intro hnone
        have hf' : g f = f := hout fun p hpm => by
          obtain rfl := List.mem_singleton.1 hpm
          exact hnone p List.mem_cons_self
        show g' (g f) = f
        rw [hout' fun q hq => by rw [hp]; exact hnone q (List.mem_cons_of_mem _ hq), hf']

end Registry

namespace Station

/-- Deleting a file leaves the registry as it is. -/
@[simp] theorem delete_folders (s : Station) (file : Path) :
    (s.delete file).folders = s.folders := by
  unfold delete
  split <;> rfl

end Station

end PushToTalk
