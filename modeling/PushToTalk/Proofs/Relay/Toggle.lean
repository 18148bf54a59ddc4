import Mathlib
import PushToTalk.Proofs.Relay.Session

/-
  What the recorder is told in the course of a history.

  The recorder does what it is told: to start into a folder, and to stop.  If it were told to start
  twice, or into a folder of before, recordings would be lost.  The detector compares, now and then,
  whether anyone speaks with what it saw when it last compared.  Where it is given what it really
  saw (`Threaded`), the recorder is told something exactly when the two differ: to start into the
  folder of the next session, and to stop, in turn.

  1. **What is seen** — `sights` are the states at the comparisons, `changes` counts how often they
     change, from nobody speaking on.

  2. **What is told** — `Toggle.turn k` is told at change number `k`.  So the log of the recorder is
     a function of the number of changes alone (`Turns.told`), and the folder being recorded into is
     the last one of the log as long as someone was seen speaking (`Turns.active`).  That the number
     of changes tells whether someone was seen speaking (`Turns.parity`) is what the step to the
     next turn rests on.

  3. **Folders** — turn `2k` starts into the folder of session `k`, so no folder is started into
     twice as long as the numbers of sessions last.

  Speech that begins and ends between two comparisons is not seen, and nothing is told for it.

  Main statement: `toggled_at_edges`.
-/

namespace PushToTalk

/-! ## Changes and turns -/

/-- How often a sequence of states changes, from a first state on. -/
def changes : Bool → List Bool → Nat
  | _, [] => 0
  | was, now :: later => (was != now).toNat + changes now later

/-- One more state changes the last one or does not. -/
theorem changes_concat (was now : Bool) (states : List Bool) :
    changes was (states ++ [now]) = changes was states + (states.getLastD was != now).toNat := by
  -- on the sequence, from any first state on
  induction states generalizing was with
  | nil => simp [changes]
  | cons first later ih =>
    rw [List.cons_append, changes, changes, ih, List.getLastD_cons]
    omega

/-- What the recorder is told at change number `k`: to start into a folder of its own, and to stop,
in turn. -/
def Toggle.turn (root : Path) (k : Nat) : Toggle :=
  if k % 2 = 0 then .start (sessionFolder root (k / 2)) else .stop

/-- The folders of the first `n` turns are those of the first sessions. -/
theorem Toggle.folders_turns (root : Path) (n : Nat) :
    ((List.range n).map (Toggle.turn root)).filterMap Toggle.folder? =
      (List.range ((n + 1) / 2)).map (sessionFolder root) := by
  induction n with
  | zero => rfl
  | succ n ih =>
    rw [List.range_succ, List.map_append, List.filterMap_append, ih]
    rcases Nat.mod_two_eq_zero_or_one n with he | ho
    · have hnext : (n + 1 + 1) / 2 = (n + 1) / 2 + 1 := by omega
      have hhalf : (n + 1) / 2 = n / 2 := by omega
      rw [hnext, List.range_succ, List.map_append, hhalf]
      simp [turn, he, folder?]
    · have hnext : (n + 1 + 1) / 2 = (n + 1) / 2 := by omega
      rw [hnext]
      simp [turn, ho, folder?]

/-- No two turns start into one folder. -/
theorem pairwise_sessionFolders (root : Path) (n : Nat) :
    ((List.range n).map (sessionFolder root)).Pairwise fun p q => (p == q) = false := by
  rw [List.pairwise_map]
  refine (List.pairwise_lt_range (n := n)).imp fun {i j} hlt => ?_
  rw [← Bool.not_eq_true, sessionFolder_beq]
  exact Nat.ne_of_lt hlt

/-- The folders that the recorder was told to start into. -/
def Relay.startFolders (r : Relay) : List Path := r.toggles.filterMap Toggle.folder?

namespace History

variable {h : History} {i : Nat} {m : Move}

/-- What the detector sees in step `i`, if it compares there. -/
def sight? (h : History) (i : Nat) : Option Bool :=
  match h.steps[i]? with
  | some (.toggle _) => some (h.after i).anyoneSpeaking
  | _ => none

/-- What the detector sees at its comparisons in the first `i` steps. -/
def sights (h : History) (i : Nat) : List Bool := (List.range i).filterMap h.sight?

/-- What is seen in one more step comes last. -/
theorem sights_succ (h : History) (i : Nat) :
    h.sights (i + 1) = h.sights i ++ (h.sight? i).toList := filterMap_range_succ _ _

/-- A comparison sees whether anyone speaks then. -/
theorem sights_toggle {was : Bool} (hm : h.steps[i]? = some (.toggle was)) :
    h.sights (i + 1) = h.sights i ++ [(h.after i).anyoneSpeaking] := by
  rw [sights_succ]
  simp [sight?, hm]

/-- Any other step sees nothing. -/
theorem sights_of_ne (hne : ∀ was, h.steps[i]? ≠ some (.toggle was)) :
    h.sights (i + 1) = h.sights i := by
  have hnone : h.sight? i = none := by
    unfold sight?
    split
    · next was hm => exact absurd hm (hne was)
    · rfl
  rw [sights_succ, hnone, Option.toList_none, List.append_nil]

/-- How often it has changed in the first `i` steps whether anyone is seen speaking. -/
def edges (h : History) (i : Nat) : Nat := changes false (h.sights i)

/-- How the recorder's log and the active folder stand to what the detector has seen. -/
structure Turns (h : History) (i : Nat) : Prop where
  seen : h.seen i = (h.sights i).getLastD false
  parity : h.edges i % 2 = (h.seen i).toNat
  told : (h.after i).toggles = (List.range (h.edges i)).map (Toggle.turn h.options.root)
  active : (h.after i).station.folders.active =
    if h.seen i then (h.after i).startFolders.getLast? else none

/-- A comparison that sees what was seen before, and any other step, changes nothing. -/
theorem Turns.stay (ht : h.Turns i) (hseen : h.seen (i + 1) = h.seen i)
    (hsights : h.sights (i + 1) = h.sights i ∨
      h.sights (i + 1) = h.sights i ++ [h.seen i])
    (htoggles : (h.after (i + 1)).toggles = (h.after i).toggles)
    (hactive : (h.after (i + 1)).station.folders.active = (h.after i).station.folders.active) :
    h.Turns (i + 1) := by
  have hedges : h.edges (i + 1) = h.edges i := by
    unfold edges
    rcases hsights with he | he <;> rw [he]
    rw [changes_concat, ← ht.seen]
    simp
  have hlast : h.seen i = (h.sights (i + 1)).getLastD false := by
    rcases hsights with he | he <;> rw [he]
    · exact ht.seen
    · simp
  constructor
  · rw [hseen]
    exact hlast
  · rw [hedges, hseen]
    exact ht.parity
  · rw [htoggles, hedges]
    exact ht.told
  · unfold Relay.startFolders
    rw [hactive, hseen, htoggles]
    exact ht.active

/-- A comparison that sees a change is an edge. -/
theorem Turns.edges_succ (ht : h.Turns i) {was : Bool}
    (hm : h.steps[i]? = some (.toggle was)) (hne : h.seen i ≠ (h.after i).anyoneSpeaking) :
    h.edges (i + 1) = h.edges i + 1 := by
  unfold edges
  rw [sights_toggle hm, changes_concat, ← ht.seen]
  simp [hne]

/-- The start of a session is the next turn. -/
theorem Turns.start (ht : h.Turns i) (hn : (h.after (i + 1)).starts ≤ UInt64.size)
    (hm : h.steps[i]? = some (.toggle false)) (hwas : h.seen i = false)
    (hs : (h.after i).anyoneSpeaking = true) (he : h.after (i + 1) = (h.after i).startSession) :
    h.Turns (i + 1) := by
  have hedges := ht.edges_succ hm (by rw [hwas, hs]; decide)
  -- before a start there are as many stops as starts
  have heven : h.edges i % 2 = 0 := by rw [ht.parity, hwas]; rfl
  have hstarts : (h.after i).starts = h.edges i / 2 := by
    unfold Relay.starts
    rw [ht.told, Toggle.folders_turns, List.length_map, List.length_range]
    omega
  rw [he, Relay.starts_startSession] at hn
  have hfolder : sessionFolder (h.after i).options.root (h.after i).nextSession.toNat =
      sessionFolder h.options.root (h.edges i / 2) := by
    rw [h.options_after, (h.owned_after i).next (by omega), hstarts]
  have hseen : h.seen (i + 1) = true := (seen_toggle hm).trans hs
  constructor
  · rw [hseen, sights_toggle hm, hs]
    simp
  · rw [hedges, hseen, Bool.toNat_true]
    omega
  · rw [he, hedges, List.range_succ, List.map_append, ← ht.told]
    show (h.after i).toggles ++ [Toggle.start (sessionFolder _ _)] = _
    rw [hfolder]
    simp [Toggle.turn, heven]
  · rw [he, hseen]
    show some (sessionFolder _ _) =
      (((h.after i).toggles ++ [Toggle.start (sessionFolder _ _)]).filterMap Toggle.folder?).getLast?
    simp [Toggle.folder?]

/-- The end of a session is the next turn. -/
theorem Turns.stop (ht : h.Turns i) (hm : h.steps[i]? = some (.toggle true))
    (hwas : h.seen i = true) (hs : (h.after i).anyoneSpeaking = false)
    (he : h.after (i + 1) = (h.after i).endSession) : h.Turns (i + 1) := by
  have hedges := ht.edges_succ hm (by rw [hwas, hs]; decide)
  have hodd : h.edges i % 2 = 1 := by rw [ht.parity, hwas]; rfl
  have hseen : h.seen (i + 1) = false := (seen_toggle hm).trans hs
  constructor
  · rw [hseen, sights_toggle hm, hs]
    simp
  · rw [hedges, hseen, Bool.toNat_false]
    omega
  · rw [he, hedges, List.range_succ, List.map_append, ← ht.told]
    show (h.after i).toggles ++ [Toggle.stop] = _
    simp [Toggle.turn, hodd]
  · rw [he, hseen]
    rfl

/-- Log and active folder follow what the detector sees. -/
theorem Threaded.turns (threaded : h.Threaded) (hn : h.final.starts ≤ UInt64.size) (i : Nat) :
    h.Turns i := by
  refine h.keeps_from (P := h.Turns) (i := 0) ⟨rfl, rfl, rfl, rfl⟩ ?_ ?_ (Nat.zero_le i)
  · intro i m _ hm ht
    rcases (step_at hm).edge with ⟨rfl, hs, he⟩ | ⟨rfl, hs, he⟩ | ⟨hs, htoggles, hactive⟩
    · exact ht.start (Nat.le_trans (h.starts_le_final _) hn) hm (threaded i false hm).symm hs he
    · exact ht.stop hm (threaded i true hm).symm hs he
    · by_cases htoggle : ∃ was, m = .toggle was
      · obtain ⟨was, rfl⟩ := htoggle
        -- nothing has changed, as the comparison is with what was seen
        have hsame : (h.after i).anyoneSpeaking = h.seen i :=
          (hs was rfl).trans (threaded i was hm)
        refine ht.stay ((seen_toggle hm).trans hsame) (Or.inr ?_) htoggles hactive
        rw [sights_toggle hm, hsame]
      · have hne : ∀ was, m ≠ .toggle was := fun was he => htoggle ⟨was, he⟩
        refine ht.stay (seen_of_ne hm hne) (Or.inl (sights_of_ne fun was he => ?_)) htoggles hactive
        exact hne was (Option.some.inj (hm.symm.trans he))
  · intro i hm ht
    refine ht.stay (by simp [History.seen, hm]) (Or.inl (sights_of_ne fun was he => ?_)) ?_ ?_
    · rw [hm] at he
      cases he
    · rw [after_succ_of_none hm]
    · rw [after_succ_of_none hm]

/-- The recorder is told exactly the turns of the changes that the detector sees, each start into
a folder that was not started into before; and after each comparison the folder being recorded
into is the one last started into if someone was seen speaking, and there is none otherwise. -/
theorem toggled_at_edges (h : History) (threaded : h.Threaded)
    (hn : h.final.starts ≤ UInt64.size) (i : Nat) :
    (h.after i).toggles =
        (List.range (changes false (h.sights i))).map (Toggle.turn h.options.root) ∧
      (h.after i).startFolders.Pairwise (fun p q => (p == q) = false) ∧
      ∀ was, h.steps[i]? = some (.toggle was) →
        ((h.after i).anyoneSpeaking = true → ∃ folder,
          (h.after (i + 1)).startFolders.getLast? = some folder ∧
            (h.after (i + 1)).station.folders.active = some folder) ∧
        ((h.after i).anyoneSpeaking = false →
          (h.after (i + 1)).station.folders.active = none) := by
  have turns := threaded.turns hn
  refine ⟨(turns i).told, ?_, fun was hm => ⟨fun hs => ?_, fun hs => ?_⟩⟩
  · unfold Relay.startFolders
    rw [(turns i).told, Toggle.folders_turns]
    exact pairwise_sessionFolders _ _
  · have hseen : h.seen (i + 1) = true := (seen_toggle hm).trans hs
    have hactive := (turns (i + 1)).active
    rw [if_pos hseen] at hactive
    -- whoever is seen speaking is recorded
    have hsome := (threaded.alternates (i + 1)).active
    rw [hseen] at hsome
    obtain ⟨folder, hfolder⟩ := Option.isSome_iff_exists.1 hsome
    exact ⟨folder, hactive.symm.trans hfolder, hfolder⟩
  · have hseen : h.seen (i + 1) = false := (seen_toggle hm).trans hs
    have hactive := (turns (i + 1)).active
    rwa [hseen] at hactive

/-- The sample has one session, and its recorder is told to start and to stop. -/
theorem toggled_at_edges_sample : sample.Threaded ∧ sample.final.starts ≤ UInt64.size ∧
    sample.steps[1]? = some (.toggle false) ∧ (sample.after 1).anyoneSpeaking = true ∧
    (sample.after 5).toggles = (List.range 2).map (Toggle.turn ⟨["rec"]⟩) ∧
    ∃ folder, (sample.after 2).station.folders.active = some folder := by
  have threaded : sample.Threaded := threaded_iff.2 (by cbv)
  have hn : sample.final.starts ≤ UInt64.size := Nat.le_trans sample.starts_final_le (by decide)
  have hm : sample.steps[1]? = some (.toggle false) := by cbv
  have hs : (sample.after 1).anyoneSpeaking = true := by cbv
  have hedges : changes false (sample.sights 5) = 2 := by cbv
  obtain ⟨folder, -, hactive⟩ := ((sample.toggled_at_edges threaded hn 1).2.2 false hm).1 hs
  refine ⟨threaded, hn, hm, hs, ?_, folder, hactive⟩
  rw [(sample.toggled_at_edges threaded hn 5).1, hedges]
  rfl

end History

end PushToTalk
