import PushToTalk.Proofs.Relay.Ownership

/-
  Runs as histories.

  What a move does may hang on what happened before it: whether a tick was asked for since the last
  flush, which flush listed a file first, who had spoken when a session began.  Statements about
  such things need the states in between, and not only the last one.  A history is a run from its
  beginning, cut into steps that nothing comes in between: a look of the detector is three of them.
  The steps are numbered, and `after i` is the relay after the first `i` of them.

  1. **Steps** — a move comes down to the steps it is made of, and running these is running the move
     (`Relay.run_flatMap_steps`), so a history has the same end as the run (`after_length`).

  2. **What a step comes down to** — `Relay.Step` lists the nine things that a step can be.  Most
     moves are `quiet`: they leave alone everything that folders, jobs and files depend on.  A
     statement about jobs or folders is proved by these cases and not by those of the moves.

  3. **Invariants** — what every step keeps is kept by the whole history (`keeps_from`, `keeps`,
     `upheld`).  The first of them speaks of the number of the step, for statements that count what
     came before; after the last step nothing changes any more, so no statement needs a bound on the
     number.

  4. **Places** — the steps of a kind by their numbers, which is how the closed histories of other
     modules are read.

  Main statements: `after_length`, `step_move` and `History.keeps`.
-/

namespace PushToTalk

open Upload (JobId)

/-- The steps that a move is made of. -/
def Move.steps : Move → List Move
  | .poll was now => [.sweep now, .toggle was, .flushIfStopped]
  | m => [m]

/-- A user is heard. -/
def Move.isSpeech : Move → Bool
  | .speech _ _ => true
  | _ => false

/-- The recorder makes an entry. -/
def Move.isRecord : Move → Bool
  | .record _ _ => true
  | _ => false

/-- A flush may take place. -/
def Move.isFlush : Move → Bool
  | .flush | .flushIfStopped => true
  | _ => false

/-- A move that is one step. -/
def Move.IsStep (m : Move) : Prop := m.steps = [m]

/-- Steps are made of one step: a look does not hide in another. -/
theorem Move.isStep_of_mem_steps {m m' : Move} (h : m' ∈ m.steps) : m'.IsStep := by
  cases m with
  | poll was now =>
    simp only [steps, List.mem_cons, List.not_mem_nil, or_false] at h
    rcases h with rfl | rfl | rfl <;> rfl
  | _ =>
    obtain rfl := List.mem_singleton.1 h
    rfl

namespace Relay

/-- The steps of a move do what the move does. -/
theorem run_steps (r : Relay) (m : Move) : r.run m.steps = r.move m := by
  cases m <;> rfl

/-- A run is the run of its steps. -/
theorem run_flatMap_steps (r : Relay) (moves : List Move) :
    r.run (moves.flatMap Move.steps) = r.run moves := by
  induction moves generalizing r with
  | nil => rfl
  | cons m later ih => rw [List.flatMap_cons, run_append, run_steps, ih, run_cons]

/-- Whether a flush takes place in a step. -/
def flushesOn (r : Relay) : Move → Bool
  | .flush => true
  | .flushIfStopped => r.stopped
  | _ => false

/-! ## What a step comes down to -/

/-- What a step does to a relay. -/
inductive Step (r : Relay) (m : Move) (r' : Relay) : Prop
  /-- Nothing that folders, jobs and files depend on. -/
  | quiet (hm : r.flushesOn m = false)
      (hs : ∀ was, m = .toggle was → r.anyoneSpeaking = was) (hq : Quiet r r')
  /-- Someone began to speak, and a session starts. -/
  | start (hm : m = .toggle false) (hs : r.anyoneSpeaking = true) (he : r' = r.startSession)
  /-- Nobody speaks any more, and the session ends. -/
  | stop (hm : m = .toggle true) (hs : r.anyoneSpeaking = false) (he : r' = r.endSession)
  /-- A flush takes place. -/
  | flush (hm : r.flushesOn m = true) (hq : Quiet r.flush.1 r')
  | record {name : String} {node : Disk.Node} (hm : m = .record name node)
      (he : r' = r.record name node)
  | dispatch (hm : m = .dispatch) (he : r' = r.dispatch)
  | advance {id : JobId} (hm : m = .advance id) (he : r' = r.advance id)
  | answer {id : JobId} {answer : Answer} (hm : m = .answer id answer)
      (he : r' = r.answerWorker id answer)
  | close (hm : m = .closeQueue) (he : r' = r.closeQueue)

/-- Forgetting a completion has no part in a flush. -/
theorem quiet_flush_takeStopped (r : Relay) : Quiet r.flush.1 r.takeStopped.flush.1 := by
  unfold flush takeStopped flushJob
  dsimp only
  split <;> exact ⟨rfl, rfl, rfl, rfl, rfl, rfl, rfl, rfl, rfl⟩

/-- Every step is one of the listed ones. -/
theorem step_move {m : Move} (hm : m.IsStep) (r : Relay) : Step r m (r.move m) := by
  cases m with
  | setName user name => exact .quiet rfl nofun (quiet_setName r user name)
  | speech user now => exact .quiet rfl nofun (quiet_reportSpeech r user now)
  | sweep now => exact .quiet rfl nofun (quiet_sweep r now)
  | toggle was =>
    -- an edge is seen where what is said now differs from what was said before
    cases was <;> cases hs : r.anyoneSpeaking
    · refine .quiet rfl (fun was he => ?_) (by simp [move, toggleIfEdge, hs, Quiet.refl])
      rw [← Move.toggle.inj he, hs]
    · exact .start rfl hs (by simp [move, toggleIfEdge, hs])
    · exact .stop rfl hs (by simp [move, toggleIfEdge, hs])
    · refine .quiet rfl (fun was he => ?_) (by simp [move, toggleIfEdge, hs, Quiet.refl])
      rw [← Move.toggle.inj he, hs]
  | notify => exact .quiet rfl nofun (quiet_notify r)
  | flush => exact .flush rfl (.refl _)
  | flushIfStopped =>
    cases hs : r.stopped
    · exact .quiet hs nofun (by simp [move, flushIfStopped, hs, Quiet.refl])
    · refine .flush hs ?_
      simpa [move, flushIfStopped, hs] using quiet_flush_takeStopped r
  | poll was now => cases hm
  | record name node => exact .record rfl rfl
  | fetch => exact .quiet rfl nofun (quiet_promote r)
  | tick id answer => exact .quiet rfl nofun (quiet_settleFetch r id answer)
  | dispatch => exact .dispatch rfl rfl
  | advance id => exact .advance rfl rfl
  | answer id answer => exact .answer rfl rfl
  | closeQueue => exact .close rfl rfl

/-- No step changes the options. -/
theorem upholds_options (options : Options) (r : Relay) (m : Move) :
    Upholds (fun r => r.options = options) r m where
  quiet hq h := hq.options.trans h
  start h := h
  stop h := h
  flush {r} h := by
    rcases flush_cases r with ⟨queue, id, -, he⟩ | he <;> rw [he] <;> exact h
  record {name node} _ h := by
    rcases record_cases r name node with he | ⟨folder, disk, -, -, he⟩ <;> rw [he] <;> exact h
  dispatch _ h := by
    rcases dispatch_cases r with he | ⟨queue, -, he⟩ <;> rw [he] <;> exact h
  advance {id} _ h := by
    rcases advance_cases r id with he | ⟨w, s', w', -, -, he⟩ <;> rw [he] <;> exact h
  answer {id answer} _ h := by
    rcases answerWorker_cases r id answer with he | ⟨w, s', w', request, file, -, -, -, -, he⟩ <;>
      rw [he] <;> exact h
  close _ h := h

end Relay

/-! ## Histories -/

/-- A run from its beginning. -/
structure History where
  /-- The disk that the relay finds. -/
  disk : Disk
  options : Options
  settings : Settings
  recorder : Recorder
  moves : List Move

namespace History

/-- The steps of a history, one after the other. -/
def steps (h : History) : List Move := h.moves.flatMap Move.steps

/-- The relay after the first `i` steps. -/
def after (h : History) (i : Nat) : Relay :=
  (Relay.startOn h.disk h.options h.settings h.recorder).run (h.steps.take i)

/-- The relay in the end. -/
def final (h : History) : Relay :=
  (Relay.startOn h.disk h.options h.settings h.recorder).run h.moves

/-- A flush takes place in step `i`. -/
def FlushesAt (h : History) (i : Nat) : Prop :=
  ∃ m, h.steps[i]? = some m ∧ (h.after i).flushesOn m = true

variable {h : History} {i j : Nat} {m : Move}

/-- After the last step nothing happens any more. -/
theorem after_of_length_le (hi : h.steps.length ≤ i) : h.after i = h.final := by
  unfold after final
  rw [List.take_of_length_le hi]
  exact Relay.run_flatMap_steps _ _

/-- The last step leads to the end. -/
theorem after_length (h : History) : h.after h.steps.length = h.final :=
  after_of_length_le (Nat.le_refl _)

/-- A step takes the relay to its next state. -/
theorem after_succ (hm : h.steps[i]? = some m) : h.after (i + 1) = (h.after i).move m := by
  unfold after
  rw [List.take_add_one, hm, Relay.run_append]
  rfl

/-- Where there is no step the relay stays as it is. -/
theorem after_succ_of_none (hm : h.steps[i]? = none) : h.after (i + 1) = h.after i := by
  unfold after
  rw [List.take_add_one, hm, Option.toList_none, List.append_nil]

/-- What stands in the list of steps is one step. -/
theorem isStep_of_getElem? (hm : h.steps[i]? = some m) : m.IsStep := by
  obtain ⟨m', -, hsteps⟩ := List.mem_flatMap.1 (List.mem_of_getElem? hm)
  exact Move.isStep_of_mem_steps hsteps

/-- A step of a history is one of those that there are. -/
theorem step_at (hm : h.steps[i]? = some m) : (h.after i).Step m (h.after (i + 1)) :=
  after_succ hm ▸ Relay.step_move (isStep_of_getElem? hm) _

/-- What holds at some time and is kept by every later step holds from then on. -/
theorem keeps_from (h : History) {P : Nat → Prop} (hi : P i)
    (step : ∀ {j m}, i ≤ j → h.steps[j]? = some m → P j → P (j + 1))
    (idle : ∀ {j}, h.steps[j]? = none → P j → P (j + 1)) (hij : i ≤ j) : P j := by
  obtain ⟨k, rfl⟩ := Nat.exists_eq_add_of_le hij
  clear hij
  -- on the number of steps from `i` on; behind the last one the state stays, and `idle` says that
  -- the statement does too
  induction k with
  | zero => exact hi
  | succ k ih =>
    cases hm : h.steps[i + k]? with
    | none => exact idle hm ih
    | some m => exact step (Nat.le_add_right i k) hm ih

/-- What holds of the relay at some time and is kept by every later step holds from then on. -/
theorem keeps (h : History) {P : Relay → Prop} (hi : P (h.after i))
    (step : ∀ {j m}, i ≤ j → h.steps[j]? = some m → P (h.after j) → P (h.after (j + 1)))
    (hij : i ≤ j) : P (h.after j) :=
  h.keeps_from (P := fun j => P (h.after j)) hi step (fun hm hp => (after_succ_of_none hm).symm ▸ hp) hij

/-- What holds of the relay at some time holds in the end, if every step keeps it. -/
theorem keeps_final (h : History) {P : Relay → Prop} (hi : P (h.after i))
    (step : ∀ {j m}, i ≤ j → h.steps[j]? = some m → P (h.after j) → P (h.after (j + 1))) :
    P h.final := by
  have hlast := h.keeps (j := max i h.steps.length) hi step (Nat.le_max_left _ _)
  rwa [after_of_length_le (Nat.le_max_right _ _)] at hlast

/-- What is true at the beginning and upheld by every step is true after any number of them. -/
theorem upheld (h : History) {P : Relay → Prop} (h₀ : P (h.after 0))
    (step : ∀ i m, h.steps[i]? = some m → Relay.Upholds P (h.after i) m) (i : Nat) :
    P (h.after i) :=
  h.keeps h₀ (fun _ hm hp => after_succ hm ▸ Relay.move_keeps (step _ _ hm) hp) (Nat.zero_le i)

/-- The options stay what they were at the beginning. -/
theorem options_after (h : History) (i : Nat) : (h.after i).options = h.options :=
  h.upheld (P := fun r => r.options = h.options) rfl
    (fun i m _ => Relay.upholds_options h.options (h.after i) m) i

/-- Folders are owned as they should be at any time of a history. -/
theorem owned_after (h : History) (i : Nat) : (h.after i).Owned :=
  Relay.owned_run _ _ _ _ _

/-- Sessions are never taken back. -/
theorem starts_mono (h : History) (hij : i ≤ j) : (h.after i).starts ≤ (h.after j).starts :=
  h.keeps (P := fun r => (h.after i).starts ≤ r.starts) (Nat.le_refl _)
    (fun _ hm hle => after_succ hm ▸ Nat.le_trans hle (Relay.starts_le_move _ _)) hij

/-- There were never more sessions than there are in the end. -/
theorem starts_le_final (h : History) (i : Nat) : (h.after i).starts ≤ h.final.starts := by
  rw [← after_of_length_le (Nat.le_max_right i h.steps.length)]
  exact h.starts_mono (Nat.le_max_left _ _)

/-- As long as the numbers of sessions last, registry and queue agree at any time on who owns which
folder. -/
theorem ownership_after (hn : h.final.starts ≤ UInt64.size) (i : Nat) :
    Ownership h.options.root (h.after i).starts (h.after i).station.folders (h.after i).queue := by
  have hown := (h.owned_after i).ownership (Nat.le_trans (h.starts_le_final i) hn)
  rwa [h.options_after i] at hown

/-- A history has no more sessions than moves. -/
theorem starts_final_le (h : History) : h.final.starts ≤ h.moves.length := by
  have hle := Relay.starts_run_le (h.after 0) h.moves
  rwa [show (h.after 0).starts = 0 from rfl, Nat.zero_add] at hle

/-- What is kept of one more step comes last. -/
theorem filterMap_range_succ {α : Type} (what? : Nat → Option α) (i : Nat) :
    (List.range (i + 1)).filterMap what? =
      (List.range i).filterMap what? ++ (what? i).toList := by
  rw [List.range_succ, List.filterMap_append]
  cases hs : what? i <;> simp [hs]

/-- The steps of a kind, by their numbers. -/
def places (h : History) (kind : Move → Bool) : List Nat :=
  (List.range h.steps.length).filter fun i => h.steps[i]?.any kind

/-- A step is found among the places of its kind. -/
theorem mem_places {kind : Move → Bool} (hm : h.steps[i]? = some m) (hk : kind m = true) :
    i ∈ h.places kind := by
  have hlt : i < h.steps.length := (List.getElem?_eq_some_iff.1 hm).1
  exact List.mem_filter.2 ⟨List.mem_range.2 hlt, by rw [hm]; exact hk⟩

/-- A flush takes place only where one may. -/
theorem mem_places_of_flushesAt (hflush : h.FlushesAt i) : i ∈ h.places Move.isFlush := by
  obtain ⟨m, hm, hflush⟩ := hflush
  refine mem_places hm ?_
  cases m with
  | flush | flushIfStopped => rfl
  | _ => cases hflush

/-- The sample run as a history. -/
def sample : History where
  disk := .blank
  options := Relay.sample.options
  settings := Relay.sample.station.settings
  recorder := .folderOnly true
  moves := Relay.sampleMoves

end History

end PushToTalk
