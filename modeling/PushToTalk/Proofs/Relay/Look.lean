import PushToTalk.Proofs.Relay.Completion
import PushToTalk.Proofs.Relay.LifeCycle

/-
  Looks of the detector with a recorder that completes at once.

  A look ends what is over, toggles the recorder on a change, and flushes if completion was
  reported.  A recorder that reports completion as it is told to stop reports it within the look, so
  the flush of the same look follows.  Nothing is left for a later look then: no report waits, and
  only the folder of the running session is being recorded into.

  1. **The shape of a history** — where only looks toggle and flush, a comparison is followed by the
     flush of its look (`OnlyLooks.flush_next`).

  2. **One step** (`Turn`) — a step toggles, or flushes, or leaves report and sessions alone, though
     folders may be judged.

  3. **The invariant** (`OnlyLooks.rests`) — the relay is at rest at any time, but for the one
     moment between the end of a session and the flush of that look.  The step to that moment is the
     end of the session, and the step from it is known by 1.

  4. **Flushes** — they take place at those moments only, so the folder of a session is taken by the
     look that ends the session, and by a later one only if something was left over in it.

  That looks follow on each other is asked for by `Threaded`: each compares with what the one before
  has seen.  The second part is about histories in which the numbers of sessions last; the first
  needs no such bound, since it does not tell folders apart.

  Main statement: `look_flushes`.
-/

namespace PushToTalk

open Upload (Job JobId Queue Worker)

/-- A part of a look made on its own, or a report of completion on its own. -/
def Move.isPart : Move → Bool
  | .toggle _ | .notify | .flush | .flushIfStopped => true
  | _ => false

namespace Move

/-- Where only whole looks are made, a comparison is followed by a flush if completion was
reported. -/
theorem flush_after_toggle {moves : List Move} (hmoves : ∀ m ∈ moves, m.isPart = false) {i : Nat}
    {was : Bool} (hi : (moves.flatMap steps)[i]? = some (.toggle was)) :
    (moves.flatMap steps)[i + 1]? = some .flushIfStopped := by
  induction moves generalizing i with
  | nil => cases hi
  | cons m later ih =>
    have hlater := fun {i : Nat} => ih (i := i) fun m' hm' => hmoves m' (List.mem_cons_of_mem _ hm')
    rw [List.flatMap_cons] at hi ⊢
    rcases Nat.lt_or_ge i m.steps.length with hfirst | hrest
    · -- the comparison is the second step of a look
      rw [List.getElem?_append_left hfirst] at hi
      have hpart := hmoves m List.mem_cons_self
      cases m with
      | poll was' now =>
        match i, hi with
        | 1, _ => rfl
        | 0, hi => cases hi
        | 2, hi => cases hi
      | toggle => cases hpart
      | _ =>
        obtain rfl : i = 0 := Nat.lt_one_iff.1 hfirst
        cases hi
    · rw [List.getElem?_append_right hrest] at hi
      rw [List.getElem?_append_right (Nat.le_succ_of_le hrest),
        Nat.succ_sub hrest]
      exact hlater hi

end Move

namespace Registry

/-- A judgement leaves a folder as it was, or finishes it. -/
theorem setState_origin {path : Path} {state : FolderState} {folders : List Folder} {f' : Folder}
    (hf : f' ∈ setState.go path state folders) : f' ∈ folders ∨ f'.state = state := by
  induction folders with
  | nil => cases hf
  | cons f rest ih =>
    rw [setState.go] at hf
    split at hf
    · rcases List.mem_cons.1 hf with rfl | hrest
      · exact Or.inr rfl
      · exact Or.inl (List.mem_cons_of_mem _ hrest)
    · rcases List.mem_cons.1 hf with rfl | hrest
      · exact Or.inl List.mem_cons_self
      · exact (ih hrest).imp_left (List.mem_cons_of_mem _)

/-- The judgement of a job's folders leaves each folder as it was, or finishes it. -/
theorem finish_origin (d : Disk) (reg : Registry) (paths : List Path) {f' : Folder}
    (hf : f' ∈ (finish d reg paths).2.folders) : f' ∈ reg.folders ∨ f'.state.IsFinished := by
  induction paths generalizing d reg with
  | nil => exact Or.inl hf
  | cons path later ih =>
    rcases ih (finishOne (d, reg) path).1 (finishOne (d, reg) path).2 hf with hfirst | hfin
    · simp only [finishOne] at hfirst
      split at hfirst
      · rcases setState_origin hfirst with hold | hstate
        · exact Or.inl hold
        · right
          rw [hstate]
          exact settle_isFinished d path
      · exact Or.inl hfirst
    · exact Or.inr hfin

end Registry

namespace Relay

variable {r r' : Relay} {m : Move}

/-! ## One step -/

/-- What a step that is no report of its own does to report, recorder and folders. -/
inductive Turn (r : Relay) (m : Move) (r' : Relay) : Prop
  /-- No session starts or ends and no flush takes place; folders may be judged. -/
  | other (stopped : r'.stopped = r.stopped) (recorder : r'.recorder = r.recorder)
      (active : r'.station.folders.active = r.station.folders.active)
      (folders : ∀ f' ∈ r'.station.folders.folders,
        f' ∈ r.station.folders.folders ∨ f'.state.IsFinished)
  | start (hm : m = .toggle false) (hs : r.anyoneSpeaking = true) (he : r' = r.startSession)
  | stop (hm : m = .toggle true) (hs : r.anyoneSpeaking = false) (he : r' = r.endSession)
  | flush (hm : m = .flushIfStopped) (hs : r.stopped = true) (he : r' = r.takeStopped.flush.1)

/-- A step that leaves report, recorder and folders alone. -/
theorem Turn.same (stopped : r'.stopped = r.stopped) (recorder : r'.recorder = r.recorder)
    (folders : r'.station.folders = r.station.folders) : Turn r m r' :=
  .other stopped recorder (by rw [folders]) fun f' hf' => Or.inl (by rwa [folders] at hf')

/-- A worker that makes a step toggles and flushes nothing; if it reports back, its folders are
judged. -/
theorem turn_advance (r : Relay) (id : JobId) : Turn r (.advance id) (r.advance id) := by
  rcases advance_cases r id with he | ⟨w, s', w', -, hadv, he⟩
  · rw [he]
    exact .same rfl rfl rfl
  · have hactive := active_advance r id
    rw [he] at hactive ⊢
    rcases hadv.folders with ⟨-, rfl, -⟩ | ⟨-, hfolders⟩
    · exact .other rfl rfl hactive fun f' hf' => Registry.finish_origin _ _ _ hf'
    · exact .same rfl rfl hfolders

/-- Every step but a report or a flush on its own is one of the listed ones. -/
theorem turn_move (hstep : m.IsStep) (hpart : m ≠ .notify ∧ m ≠ .flush) (r : Relay) :
    Turn r m (r.move m) := by
  cases m with
  | setName user name => exact .same rfl rfl rfl
  | speech user now =>
    show Turn r _ (r.reportSpeech user now)
    unfold reportSpeech
    dsimp only
    split <;> exact .same rfl rfl rfl
  | sweep now => exact .same rfl rfl rfl
  -- what was seen before and what is the case now: of the four cases two are edges
  | toggle was =>
    cases was <;> cases hs : r.anyoneSpeaking
    · exact .same (by simp [move, toggleIfEdge, hs]) (by simp [move, toggleIfEdge, hs])
        (by simp [move, toggleIfEdge, hs])
    · exact .start rfl hs (by simp [move, toggleIfEdge, hs])
    · exact .stop rfl hs (by simp [move, toggleIfEdge, hs])
    · exact .same (by simp [move, toggleIfEdge, hs]) (by simp [move, toggleIfEdge, hs])
        (by simp [move, toggleIfEdge, hs])
  | notify => exact absurd rfl hpart.1
  | flush => exact absurd rfl hpart.2
  | flushIfStopped =>
    cases hs : r.stopped
    · exact .same (by simp [move, flushIfStopped, hs]) (by simp [move, flushIfStopped, hs])
        (by simp [move, flushIfStopped, hs])
    · exact .flush rfl hs (by simp [move, flushIfStopped, hs])
  | poll was now => cases hstep
  | record name node =>
    show Turn r _ (r.record name node)
    rcases record_cases r name node with he | ⟨folder, disk, -, -, he⟩ <;> rw [he] <;>
      exact .same rfl rfl rfl
  | fetch =>
    show Turn r _ r.promote
    unfold promote
    split <;> exact .same rfl rfl rfl
  | tick id answer =>
    show Turn r _ (r.settleFetch id answer)
    unfold settleFetch
    split <;> exact .same rfl rfl rfl
  | dispatch =>
    show Turn r _ r.dispatch
    rcases dispatch_cases r with he | ⟨queue, -, he⟩ <;> rw [he] <;> exact .same rfl rfl rfl
  | advance id => exact turn_advance r id
  | answer id answer =>
    show Turn r _ (r.answerWorker id answer)
    rcases answerWorker_cases r id answer with
      he | ⟨w, s', w', request, file, -, -, -, hrec, he⟩ <;> rw [he]
    · exact .same rfl rfl rfl
    · exact .same rfl rfl hrec.folders.2
  | closeQueue => exact .same rfl rfl rfl

/-! ## At rest -/

/-- No report waits to be taken, and only the folder of the running session is being recorded
into. -/
def AtRest (r : Relay) : Prop :=
  r.stopped = false ∧ ∀ f ∈ r.station.folders.folders, f.state = .recording →
    r.station.folders.active = some f.path

/-- A relay at rest stays so if no session starts or ends and no flush takes place. -/
theorem Turn.atRest_other (h : r.AtRest) (stopped : r'.stopped = r.stopped)
    (active : r'.station.folders.active = r.station.folders.active)
    (folders : ∀ f' ∈ r'.station.folders.folders,
      f' ∈ r.station.folders.folders ∨ f'.state.IsFinished) : r'.AtRest := by
  refine ⟨stopped.trans h.1, fun f' hf' hs => ?_⟩
  rcases folders f' hf' with hold | hfin
  · rw [active]
    exact h.2 f' hold hs
  · rw [hs] at hfin
    rcases hfin with he | he <;> cases he

/-- The session that starts is the only one that is being recorded into. -/
theorem AtRest.startSession (h : r.AtRest) (hidle : r.station.folders.active = none) :
    r.startSession.AtRest := by
  refine ⟨?_, fun f hf hs => ?_⟩
  · show (r.stopped || false) = false
    rw [h.1]
    rfl
  · rcases List.mem_append.1 hf with hold | hnew
    · have hactive := h.2 f hold hs
      rw [hidle] at hactive
      cases hactive
    · obtain rfl := List.mem_singleton.1 hnew
      rfl

/-- A flush takes whatever is still counted as being recorded into, if no session runs. -/
theorem atRest_flush (hidle : r.station.folders.active = none) :
    r.takeStopped.flush.1.AtRest := by
  have hstopped : r.takeStopped.flush.1.stopped = false := by
    rcases flush_cases r.takeStopped with ⟨queue, id, -, he⟩ | he <;> rw [he] <;> rfl
  have hscan : ∀ f ∈ r.station.folders.afterScan.folders, f.state ≠ .recording := by
    intro f' hf' hs
    obtain ⟨f, -, -, -, ⟨-, hproc⟩ | ⟨hnot, rfl⟩⟩ := Ownership.mem_afterScan hf'
    · rw [hproc] at hs
      cases hs
    · simp [Registry.isEligible, Registry.isActive, hs, hidle] at hnot
  refine ⟨hstopped, fun f hf hs => ?_⟩
  rcases flush_cases r.takeStopped with ⟨queue, id, -, he⟩ | he
  · rw [he] at hf
    exact absurd hs (hscan f hf)
  · rw [he] at hf
    rcases Registry.finish_origin _ _ _ hf with hold | hfin
    · exact absurd hs (hscan f hold)
    · rw [hs] at hfin
      rcases hfin with he | he <;> cases he

end Relay

namespace History

variable {h : History} {i j k : Nat} {m : Move}

/-- Only whole looks toggle and flush, and the recorder reports completion as it is told to
stop. -/
structure OnlyLooks (h : History) : Prop where
  moves : ∀ m ∈ h.moves, m.isPart = false
  atOnce : h.recorder.notifiesOnStop = true

namespace OnlyLooks

/-- A comparison is followed by the flush of its look. -/
theorem flush_next (looks : h.OnlyLooks) {was : Bool} (hi : h.steps[i]? = some (.toggle was)) :
    h.steps[i + 1]? = some .flushIfStopped := Move.flush_after_toggle looks.moves hi

/-- No step is a report on its own, or a flush that waits for none. -/
theorem not_part (looks : h.OnlyLooks) (hm : h.steps[i]? = some m) :
    m ≠ .notify ∧ m ≠ .flush := by
  obtain ⟨m', hmem, hsteps⟩ := List.mem_flatMap.1 (List.mem_of_getElem? hm)
  have hpart := looks.moves m' hmem
  cases m' with
  | poll was now =>
    simp only [Move.steps, List.mem_cons, List.not_mem_nil, or_false] at hsteps
    rcases hsteps with rfl | rfl | rfl <;> constructor <;> intro he <;> cases he
  | toggle | notify | flush | flushIfStopped => cases hpart
  | _ =>
    obtain rfl := List.mem_singleton.1 hsteps
    constructor <;> intro he <;> cases he

/-- What a step does to report, recorder and folders is one of the listed ways. -/
theorem turn (looks : h.OnlyLooks) (hm : h.steps[i]? = some m) :
    (h.after i).Turn m (h.after (i + 1)) :=
  after_succ hm ▸ Relay.turn_move (isStep_of_getElem? hm) (looks.not_part hm) (h.after i)

/-- The recorder stays the one that it was at the beginning. -/
theorem recorder_after (looks : h.OnlyLooks) (i : Nat) : (h.after i).recorder = h.recorder := by
  refine h.keeps (P := fun r => r.recorder = h.recorder) (i := 0) rfl ?_ (Nat.zero_le i)
  intro j m _ hm hrec
  cases looks.turn hm with
  | other _ hsame _ _ => exact hsame.trans hrec
  | start _ _ he => exact he ▸ hrec
  | stop _ _ he => exact he ▸ hrec
  | flush _ _ he =>
    rw [he]
    rcases Relay.flush_cases (h.after j).takeStopped with ⟨queue, id, -, he⟩ | he <;> rw [he] <;>
      exact hrec

end OnlyLooks

/-! ## The moment between the end of a session and the flush -/

/-- A session ends in step `i`, the comparison of a look, and the relay was at rest before. -/
structure Ends (h : History) (i : Nat) : Prop where
  toggle : h.steps[i]? = some (.toggle true)
  silent : (h.after i).anyoneSpeaking = false
  rest : (h.after i).AtRest

/-- What such a step does is to end the session. -/
theorem Ends.after_succ (hends : h.Ends i) : h.after (i + 1) = (h.after i).endSession := by
  rw [History.after_succ hends.toggle]
  simp [Relay.move, Relay.toggleIfEdge, hends.silent]

/-- The recorder has reported by then. -/
theorem Ends.stopped (looks : h.OnlyLooks) (hends : h.Ends i) :
    (h.after (i + 1)).stopped = true := by
  rw [hends.after_succ]
  show ((h.after i).stopped || (h.after i).recorder.notifiesOnStop) = true
  rw [looks.recorder_after, looks.atOnce, Bool.or_true]

/-- The relay is at rest at any time, but for the moment between the end of a session and the flush
of that look. -/
theorem OnlyLooks.rests (looks : h.OnlyLooks) (threaded : h.Threaded) (i : Nat) :
    (h.after i).AtRest ∨ ∃ k, i = k + 1 ∧ h.Ends k := by
  refine h.keeps_from (P := fun i => (h.after i).AtRest ∨ ∃ k, i = k + 1 ∧ h.Ends k) (i := 0)
    (Or.inl ⟨rfl, fun f hf => absurd hf List.not_mem_nil⟩) ?_ ?_ (Nat.zero_le i)
  · rintro i m - hm (hrest | ⟨k, rfl, hends⟩)
    · -- at rest, only the end of a session leads to another state
      cases looks.turn hm with
      | other stopped _ active folders =>
        exact Or.inl (Relay.Turn.atRest_other hrest stopped active folders)
      | start hwas _ he =>
        -- the look before saw nobody speaking, so no session runs
        subst hwas
        have hseen : false = h.seen i := threaded i false hm
        have hidle := (threaded.alternates i).active
        rw [← hseen, Option.isSome_eq_false_iff, Option.isNone_iff_eq_none] at hidle
        rw [he]
        exact Or.inl (hrest.startSession hidle)
      | stop hwas hs _ =>
        subst hwas
        exact Or.inr ⟨i, rfl, hm, hs, hrest⟩
      | flush _ hs _ =>
        rw [hrest.1] at hs
        cases hs
    · -- the flush of the look is next
      have hnext := looks.flush_next hends.toggle
      obtain rfl := Option.some.inj (hm.symm.trans hnext)
      have htold := hends.stopped looks
      rw [History.after_succ hm]
      left
      show (h.after (k + 1)).flushIfStopped.1.AtRest
      unfold Relay.flushIfStopped
      rw [htold]
      refine Relay.atRest_flush ?_
      rw [hends.after_succ]
      rfl
  · rintro i hm (hrest | ⟨k, rfl, hends⟩)
    · exact Or.inl (after_succ_of_none hm ▸ hrest)
    · rw [looks.flush_next hends.toggle] at hm
      cases hm

/-- Where a flush takes place a session has just ended. -/
theorem OnlyLooks.ends_of_flushesAt (looks : h.OnlyLooks) (threaded : h.Threaded)
    (hflush : h.FlushesAt j) : ∃ i, j = i + 1 ∧ h.Ends i := by
  obtain ⟨m, hm, hflushes⟩ := hflush
  rcases looks.rests threaded j with hrest | hends
  · cases m with
    | flush => exact absurd rfl (looks.not_part hm).2
    | flushIfStopped =>
      rw [show (h.after j).flushesOn .flushIfStopped = (h.after j).stopped from rfl,
        hrest.1] at hflushes
      cases hflushes
    | _ => cases hflushes
  · exact hends

/-- The look that ends a session flushes. -/
theorem Ends.flushesAt (looks : h.OnlyLooks) (hends : h.Ends i) : h.FlushesAt (i + 1) :=
  ⟨.flushIfStopped, looks.flush_next hends.toggle, hends.stopped looks⟩

/-! ## Which session ends -/

/-- Session `k` ends in step `i`. -/
def StopsAt (h : History) (k i : Nat) : Prop :=
  (h.after i).stops = k ∧ (h.after (i + 1)).stops = k + 1

/-- The session that ends is the first that had not ended before. -/
theorem Ends.stopsAt (hends : h.Ends i) : h.StopsAt (h.after i).stops i := by
  refine ⟨rfl, ?_⟩
  rw [hends.after_succ]
  exact Relay.stops_endSession _

/-- Sessions end in comparisons, and only while the relay is at rest. -/
theorem StopsAt.ends (looks : h.OnlyLooks) (threaded : h.Threaded) (hstop : h.StopsAt k i) :
    h.Ends i := by
  have hmore : (h.after (i + 1)).stops ≠ (h.after i).stops := by
    have := hstop.1
    have := hstop.2
    omega
  cases hm : h.steps[i]? with
  | none => exact absurd (congrArg Relay.stops (after_succ_of_none hm)) hmore
  | some m =>
    rcases (step_at hm).edge with ⟨-, -, he⟩ | ⟨rfl, hs, -⟩ | ⟨-, ht, -⟩
    · exact absurd (by rw [he, Relay.stops_startSession]) hmore
    · refine ⟨hm, hs, ?_⟩
      rcases looks.rests threaded i with hrest | ⟨k, rfl, hends⟩
      · exact hrest
      · rw [looks.flush_next hends.toggle] at hm
        cases hm
    · exact absurd (Relay.stops_eq ht) hmore

/-- Right after the end of session `k` no session runs, and its folder counts as being recorded
into. -/
theorem Ends.folder (threaded : h.Threaded) (hn : h.final.starts ≤ UInt64.size)
    (hends : h.Ends i) : ∃ f ∈ h.folders (i + 1),
      f.path = sessionFolder h.options.root (h.after i).stops ∧ f.state = .recording ∧
      (h.after i).station.folders.active = some f.path := by
  have hseen : true = h.seen i := threaded i true hends.toggle
  obtain ⟨hstarts, hactive⟩ := threaded.alternates i
  rw [← hseen] at hstarts hactive
  obtain ⟨a, ha⟩ := Option.isSome_iff_exists.1 hactive
  obtain ⟨⟨last, hlast, rfl⟩, ⟨f, hf, hp, hs⟩, -⟩ := (ownership_after hn i).active a ha
  obtain rfl : last = (h.after i).stops := by
    rw [Bool.toNat_true] at hstarts
    omega
  refine ⟨f, ?_, hp, hs, by rw [hp]; exact ha⟩
  unfold folders
  rw [hends.after_succ]
  exact hf

/-- When a session ends, the flush of the look takes whatever is neither processed nor finished for
good. -/
theorem Ends.takes (hends : h.Ends i) {f : Folder} (hf : f ∈ h.folders (i + 1))
    (hs : f.state = .recording ∨ f.state = .finishedUnsuccessfully) :
    f.path ∈ (h.jobAt (i + 1)).folders := by
  have hidle : (h.after (i + 1)).station.folders.active = none := by
    rw [hends.after_succ]
    rfl
  refine (Ownership.mem_eligible _).2 ⟨f, hf, ?_, rfl⟩
  rcases hs with hs | hs <;> simp [Registry.isEligible, Registry.isActive, hs, hidle]

/-! ## What looks leave -/

/-- The folder of session `k` was left over by the time of step `j`: a job was done with it, and not
all of it was gone. -/
def LeftOver (h : History) (k j : Nat) : Prop :=
  ∃ f ∈ h.folders j, f.path = sessionFolder h.options.root k ∧ f.state = .finishedUnsuccessfully

/-- The folder of a session is taken by the flush of the look that ends the session, and later by
the look that ends another one if it was left over until then. -/
theorem taken_iff (looks : h.OnlyLooks) (threaded : h.Threaded)
    (hn : h.final.starts ≤ UInt64.size) :
    (h.FlushesAt j ∧ sessionFolder h.options.root k ∈ (h.jobAt j).folders) ↔
      ∃ i, j = i + 1 ∧
        (h.StopsAt k i ∨ (∃ l, k < l ∧ h.StopsAt l i) ∧ h.LeftOver k j) := by
  constructor
  · rintro ⟨hflush, hk⟩
    obtain ⟨i, rfl, hends⟩ := looks.ends_of_flushesAt threaded hflush
    refine ⟨i, rfl, ?_⟩
    have hle : k ≤ (h.after i).stops := by
      have hlt := threaded.lt_stops hn hk
      rw [hends.stopsAt.2] at hlt
      omega
    rcases Nat.lt_or_eq_of_le hle with hlt | rfl
    · right
      refine ⟨⟨_, hlt, hends.stopsAt⟩, ?_⟩
      obtain ⟨f, hf, htaken, hp⟩ := (Ownership.mem_eligible _).1 hk
      refine ⟨f, hf, hp, ?_⟩
      simp only [Registry.isEligible, Bool.and_eq_true, bne_iff_ne, ne_eq] at htaken
      obtain ⟨⟨hgood, hproc⟩, -⟩ := htaken
      cases hs : f.state with
      | recording =>
        -- only the folder of the session that ends is still recorded into
        have hold : f ∈ (h.after i).station.folders.folders := by
          rw [hends.after_succ] at hf
          exact hf
        have hactive := hends.rest.2 f hold hs
        obtain ⟨g, -, hg, -, hlast⟩ := hends.folder threaded hn
        rw [hlast] at hactive
        have hsame := (hg.symm.trans (Option.some.inj hactive)).trans hp
        have heq := sessionFolder_injective hsame
        omega
      | processing => exact absurd hs hproc
      | finishedUnsuccessfully => rfl
      | finishedSuccessfully => exact absurd hs hgood
    · exact Or.inl hends.stopsAt
  · rintro ⟨i, rfl, hstop | ⟨⟨l, -, hstop⟩, f, hf, hp, hs⟩⟩
    · have hends := hstop.ends looks threaded
      refine ⟨hends.flushesAt looks, ?_⟩
      obtain ⟨f, hf, hp, hs, -⟩ := hends.folder threaded hn
      rw [hstop.1] at hp
      rw [← hp]
      exact hends.takes hf (Or.inl hs)
    · have hends := hstop.ends looks threaded
      refine ⟨hends.flushesAt looks, ?_⟩
      rw [← hp]
      exact hends.takes hf (Or.inr hs)

/-- Where only looks toggle and flush, each with what the one before has seen, and the recorder
completes at once: after each look no report waits, a session runs exactly if the look saw someone
speaking, and only its folder is being recorded into.  The folder of a session is put into a job by
the look that ends the session and by none before; later by exactly those looks that end another
session while the folder is left over. -/
theorem look_flushes (looks : h.OnlyLooks) (threaded : h.Threaded) :
    (∀ i was, h.steps[i]? = some (.toggle was) →
      h.steps[i + 1]? = some .flushIfStopped ∧
      (h.after (i + 2)).stopped = false ∧
      (h.after (i + 2)).station.folders.active.isSome = (h.after i).anyoneSpeaking ∧
      ∀ f ∈ h.folders (i + 2), f.state = .recording →
        (h.after (i + 2)).station.folders.active = some f.path) ∧
    (h.final.starts ≤ UInt64.size → ∀ k j,
      (h.FlushesAt j ∧ sessionFolder h.options.root k ∈ (h.jobAt j).folders) ↔
        ∃ i, j = i + 1 ∧
          (h.StopsAt k i ∨ (∃ l, k < l ∧ h.StopsAt l i) ∧ h.LeftOver k j)) := by
  refine ⟨fun i was hi => ?_, fun hn k j => taken_iff looks threaded hn⟩
  have hnext := looks.flush_next hi
  -- the relay would not be at rest only if the step before had been a toggle, but that was the
  -- flush
  have hrest : (h.after (i + 2)).AtRest := by
    rcases looks.rests threaded (i + 2) with hrest | ⟨k, hk, hends⟩
    · exact hrest
    · obtain rfl : k = i + 1 := by omega
      rw [hends.toggle] at hnext
      cases hnext
  have hseen : h.seen (i + 2) = (h.after i).anyoneSpeaking :=
    (seen_of_ne hnext nofun).trans (seen_toggle hi)
  exact ⟨hnext, hrest.1, (threaded.alternates (i + 2)).active.trans hseen, hrest.2⟩

/-- The backend does not take the recording of the first session, and a second session follows. -/
def retried : History where
  disk := .blank
  options := Relay.sample.options
  settings := Relay.sample.station.settings
  recorder := .folderOnly true
  moves := [.speech 1 0, .poll false 0, .record "1-a.wav" (.file [7]), .poll true 1000,
    .dispatch, .fetch, .tick 0 (.body "\x7b\"tickId\":3,\"elapsed\":4\x7d"), .advance 0, .advance 0,
    .advance 0, .answer 0 (.fault (.timeout "slow")), .advance 0, .speech 1 2000,
    .poll false 2000, .poll true 3000]

/-- In that run only looks toggle and flush, and the recorder completes at once. -/
theorem retried_onlyLooks : retried.OnlyLooks where
  moves := by simp [retried, Move.isPart]
  atOnce := rfl

/-- In that run each comparison is with what the one before has seen. -/
theorem retried_threaded : retried.Threaded := threaded_iff.2 (by cbv)

/-- In that run the numbers of sessions last. -/
theorem retried_few : retried.final.starts ≤ UInt64.size :=
  Nat.le_trans retried.starts_final_le (by decide)

/-- The folder of the first session is taken by the look that ends it. -/
theorem look_flushes_sample : retried.OnlyLooks ∧ retried.Threaded ∧
    retried.final.starts ≤ UInt64.size ∧ retried.steps[6]? = some (.toggle true) ∧
    (retried.after 8).stopped = false ∧ retried.StopsAt 0 6 ∧ retried.FlushesAt 7 ∧
    sessionFolder retried.options.root 0 ∈ (retried.jobAt 7).folders := by
  have hlook : retried.steps[6]? = some (.toggle true) := by cbv
  have hstop : retried.StopsAt 0 6 := ⟨by cbv, by cbv⟩
  obtain ⟨hrest, htaken⟩ := look_flushes retried_onlyLooks retried_threaded
  obtain ⟨-, hstopped, -, -⟩ := hrest 6 true hlook
  obtain ⟨hflush, hjob⟩ := (htaken retried_few 0 7).2 ⟨6, rfl, Or.inl hstop⟩
  exact ⟨retried_onlyLooks, retried_threaded, retried_few, hlook, hstopped, hstop, hflush, hjob⟩

/-- A folder that was left over is taken again, by a look that ends another session. -/
theorem taken_again : ¬ ∀ h : History, h.OnlyLooks → h.Threaded →
    h.final.starts ≤ UInt64.size → ∀ k j,
      (h.FlushesAt j ∧ sessionFolder h.options.root k ∈ (h.jobAt j).folders) ↔
        ∃ i, j = i + 1 ∧ h.StopsAt k i := by
  intro hall
  have hstep : retried.steps[22]? = some .flushIfStopped := by cbv
  have htold : (retried.after 22).stopped = true := by cbv
  have hfolders : (retried.after 22).station.folders.eligible =
      [⟨["rec", "voice0"]⟩, ⟨["rec", "voice1"]⟩] := by cbv
  have hname : sessionFolder retried.options.root 0 = ⟨["rec", "voice0"]⟩ := by cbv
  have hjob : sessionFolder retried.options.root 0 ∈ (retried.jobAt 22).folders := by
    show sessionFolder retried.options.root 0 ∈ (retried.after 22).station.folders.eligible
    rw [hfolders, hname]
    exact List.mem_cons_self
  obtain ⟨i, hi, hstops, -⟩ := (hall retried retried_onlyLooks retried_threaded retried_few 0 22).1
    ⟨⟨_, hstep, htold⟩, hjob⟩
  obtain rfl : i = 21 := by omega
  rw [show (retried.after 21).stops = 1 by cbv] at hstops
  cases hstops

end History

end PushToTalk
