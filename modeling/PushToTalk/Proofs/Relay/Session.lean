import PushToTalk.Proofs.Relay.History

/-
  Sessions in the course of a history.

  The detector looks at the users from time to time and compares what it sees with what it saw last.
  Where every look is given what the look before has seen, starts and stops of sessions alternate, a
  start first, and a folder is being recorded into exactly as long as a session runs.

  1. **What changes when** — starts and stops, and which folder is being recorded into, change in
     two kinds of steps only (`Step.edge`).  All others are gone through one by one for this.

  2. **Threaded histories** — `seen` is what the detector has seen when it compares, read off the
     history.  That the looks are given just this is the one hypothesis (`Threaded`); for a history
     that is written out it can be computed.

  3. **Alternation** — the number of starts is that of stops, and one more while somebody is seen
     speaking (`Alternates`).

  4. **Sessions** — which session runs when, and which one a user's speech belongs to.

  Who is speaking, and for how long, is a matter of the users and told elsewhere.

  Main statement: `History.Threaded.alternates`.
-/

namespace PushToTalk

open Upload (JobId)

namespace Relay

/-- Whether a user is speaking. -/
def isSpeaking (r : Relay) (user : UserId) : Bool := (r.station.users.record user).speaking

/-- How many sessions were ended. -/
def stops (r : Relay) : Nat := r.toggles.countP fun t => t.folder?.isNone

/-- The stops are read off what the host was told. -/
theorem stops_eq {r r' : Relay} (h : r'.toggles = r.toggles) : r'.stops = r.stops := by
  unfold stops
  rw [h]

/-- A start is no stop. -/
theorem stops_startSession (r : Relay) : r.startSession.stops = r.stops := by
  simp [stops, startSession, tell, Toggle.folder?]

/-- A stop is one more. -/
theorem stops_endSession (r : Relay) : r.endSession.stops = r.stops + 1 := by
  simp [stops, endSession, tell, Toggle.folder?]

/-- A flush has no part in which folder is being recorded into. -/
theorem active_flush (r : Relay) :
    r.flush.1.station.folders.active = r.station.folders.active := by
  rcases flush_cases r with ⟨queue, id, -, he⟩ | he
  · rw [he]
    rfl
  · rw [he]
    exact Registry.finish_active _ _ _

/-- A worker has no part in which folder is being recorded into, not even with its last step. -/
theorem active_advance (r : Relay) (id : JobId) :
    (r.advance id).station.folders.active = r.station.folders.active := by
  rcases advance_cases r id with he | ⟨w, s', w', -, hadv, he⟩
  · rw [he]
  · rw [he]
    rcases hadv.folders with ⟨-, rfl, -⟩ | ⟨-, hfolders⟩
    · exact Registry.finish_active _ _ _
    · show s'.folders.active = _
      rw [hfolders]

/-- An exchange has no part in which folder is being recorded into. -/
theorem active_answerWorker (r : Relay) (id : JobId) (answer : Answer) :
    (r.answerWorker id answer).station.folders.active = r.station.folders.active := by
  rcases answerWorker_cases r id answer with he | ⟨w, s', w', request, file, -, -, -, hrec, he⟩
  · rw [he]
  · rw [he]
    show s'.folders.active = _
    rw [hrec.folders.2]

/-- What is recorded goes into that folder, and does not change which one it is. -/
theorem active_record (r : Relay) (name : String) (node : Disk.Node) :
    (r.record name node).station.folders.active = r.station.folders.active := by
  rcases record_cases r name node with he | ⟨folder, disk, -, -, he⟩ <;> rw [he]

/-- The start of a worker has no part in which folder is being recorded into. -/
theorem active_dispatch (r : Relay) :
    r.dispatch.station.folders.active = r.station.folders.active := by
  rcases dispatch_cases r with he | ⟨queue, -, he⟩ <;> rw [he]

variable {r r' : Relay} {m : Move}

/-- Starts and stops, and which folder is being recorded into, change at the edges only. -/
theorem Step.edge (h : r.Step m r') :
    (m = .toggle false ∧ r.anyoneSpeaking = true ∧ r' = r.startSession) ∨
      (m = .toggle true ∧ r.anyoneSpeaking = false ∧ r' = r.endSession) ∨
      ((∀ was, m = .toggle was → r.anyoneSpeaking = was) ∧ r'.toggles = r.toggles ∧
        r'.station.folders.active = r.station.folders.active) := by
  cases h with
  | quiet _ hs hq => exact Or.inr (Or.inr ⟨hs, hq.toggles, by rw [hq.folders]⟩)
  | start hm hs he => exact Or.inl ⟨hm, hs, he⟩
  | stop hm hs he => exact Or.inr (Or.inl ⟨hm, hs, he⟩)
  | flush hm hq =>
    refine Or.inr (Or.inr ⟨?_, hq.toggles.trans (toggles_flush r), ?_⟩)
    · rintro was rfl
      cases hm
    · rw [hq.folders, active_flush]
  | record hm he =>
    subst hm he
    exact Or.inr (Or.inr ⟨nofun, toggles_record _ _ _, active_record _ _ _⟩)
  | dispatch hm he =>
    subst hm he
    exact Or.inr (Or.inr ⟨nofun, toggles_dispatch _, active_dispatch _⟩)
  | advance hm he =>
    subst hm he
    exact Or.inr (Or.inr ⟨nofun, toggles_advance _ _, active_advance _ _⟩)
  | answer hm he =>
    subst hm he
    exact Or.inr (Or.inr ⟨nofun, toggles_answerWorker _ _ _, active_answerWorker _ _ _⟩)
  | close hm he =>
    subst hm he
    exact Or.inr (Or.inr ⟨nofun, rfl, rfl⟩)

end Relay

namespace History

variable {h : History} {i : Nat}

/-- What the detector has seen when it last compared: nobody speaking, before it ever did. -/
def seen (h : History) : Nat → Bool
  | 0 => false
  | i + 1 =>
    match h.steps[i]? with
    | some (.toggle _) => (h.after i).anyoneSpeaking
    | _ => h.seen i

/-- Every comparison of the detector is with what it saw at the one before. -/
def Threaded (h : History) : Prop :=
  ∀ i was, h.steps[i]? = some (.toggle was) → was = h.seen i

/-- Whether the comparison in step `i`, if it is one, is with what was seen before. -/
def threadsAt (h : History) (i : Nat) : Bool :=
  match h.steps[i]? with
  | some (.toggle was) => was == h.seen i
  | _ => true

/-- Whether every comparison of the detector is with what was seen before. -/
def threads (h : History) : Bool := (List.range h.steps.length).all h.threadsAt

/-- Whether a history is threaded can be computed, step by step. -/
theorem threaded_iff : h.Threaded ↔ h.threads = true := by
  simp only [threads, List.all_eq_true, List.mem_range]
  constructor
  · intro threaded i _
    unfold threadsAt
    split
    · next was hm => exact beq_iff_eq.2 (threaded i was hm)
    · rfl
  · intro hall i was hm
    have hlt : i < h.steps.length := (List.getElem?_eq_some_iff.1 hm).1
    have hi := hall i hlt
    rw [threadsAt, hm] at hi
    exact beq_iff_eq.1 hi

instance (h : History) : Decidable h.Threaded := decidable_of_iff _ threaded_iff.symm

/-- A look sees whether anyone is speaking. -/
theorem seen_toggle {was : Bool} (hm : h.steps[i]? = some (.toggle was)) :
    h.seen (i + 1) = (h.after i).anyoneSpeaking := by simp [seen, hm]

/-- Other steps see nothing. -/
theorem seen_of_ne {m : Move} (hm : h.steps[i]? = some m) (hne : ∀ was, m ≠ .toggle was) :
    h.seen (i + 1) = h.seen i := by
  rw [seen, hm]
  cases m with
  | toggle was => exact absurd rfl (hne was)
  | _ => rfl

/-- How starts, stops and the active folder stand to what the detector has seen. -/
structure Alternates (h : History) (i : Nat) : Prop where
  starts : (h.after i).starts = (h.after i).stops + (h.seen i).toNat
  active : (h.after i).station.folders.active.isSome = h.seen i

/-- Sessions start and stop in turn, and a folder is being recorded into exactly as long as one
runs. -/
theorem Threaded.alternates (threaded : h.Threaded) (i : Nat) : h.Alternates i := by
  refine h.keeps_from (P := h.Alternates) (i := 0) ⟨rfl, rfl⟩ ?_ ?_ (Nat.zero_le i)
  · intro i m _ hm hi
    -- a session starts, or one stops, or neither
    rcases (step_at hm).edge with ⟨rfl, hs, he⟩ | ⟨rfl, hs, he⟩ | ⟨hs, ht, ha⟩
    · have hwas : false = h.seen i := threaded i false hm
      have hseen := seen_toggle hm
      rw [hs] at hseen
      constructor
      · rw [he, Relay.starts_startSession, Relay.stops_startSession, hi.starts, ← hwas, hseen]
        rfl
      · rw [he, hseen]
        rfl
    · have hwas : true = h.seen i := threaded i true hm
      have hseen := seen_toggle hm
      rw [hs] at hseen
      constructor
      · rw [he, Relay.starts_endSession, Relay.stops_endSession, hi.starts, ← hwas, hseen]
        rfl
      · rw [he, hseen]
        rfl
    · have hseen : h.seen (i + 1) = h.seen i := by
        by_cases htoggle : ∃ was, m = .toggle was
        · obtain ⟨was, rfl⟩ := htoggle
          rw [seen_toggle hm, hs was rfl, threaded i was hm]
        · exact seen_of_ne hm fun was he => htoggle ⟨was, he⟩
      constructor
      · rw [Relay.starts_eq ht, Relay.stops_eq ht, hseen]
        exact hi.starts
      · rw [ha, hseen]
        exact hi.active
  · intro i hm hi
    have hseen : h.seen (i + 1) = h.seen i := by simp [seen, hm]
    constructor
    · rw [after_succ_of_none hm, hseen]
      exact hi.starts
    · rw [after_succ_of_none hm, hseen]
      exact hi.active

/-- Session `k` runs after `i` steps. -/
def RunsAt (h : History) (k i : Nat) : Prop :=
  (h.after i).stops = k ∧ k < (h.after i).starts

/-- Session `k` starts in step `i`. -/
def StartsAt (h : History) (k i : Nat) : Prop :=
  (h.after i).starts = k ∧ (h.after (i + 1)).starts = k + 1

/-- What a user says in step `i` belongs to session `k`: the session runs then, or the user goes on
speaking until it starts. -/
def BelongsTo (h : History) (k : Nat) (user : UserId) (i : Nat) : Prop :=
  h.RunsAt k i ∨ ∃ e, i ≤ e ∧ h.StartsAt k e ∧
    ∀ j, i < j → j ≤ e → (h.after j).isSpeaking user = true

end History

end PushToTalk
