import Mathlib
import PushToTalk.Proofs.Relay.Handover
import PushToTalk.Proofs.Relay.Session

/-
  Completion and flushes.

  The recorder reports a session when its files are finished, and a flush waits for such a report,
  so that no file is sent of which a part is still to come.  But the report does not say which
  session it is about, and a flush takes the folders of all sessions that were ended.  So the
  folders of a flush are those of finished sessions exactly if every session that was ended has been
  reported by then.

  1. **Counting** — `reported` counts the reports so far, and `stops` the sessions that were ended.
     Where the recorder reports in order, session `k` was reported if `k` is below the first number,
     and it was ended if it is below the second.

  2. **Folders of sessions that were ended** — the folder of a session stays registered as it was
     until some flush takes it (`waits_for_flush`), since nobody else judges it
     (`Step.keeps_folder`).  So the first flush after the end of a session takes its folder, and no
     earlier one does (`Threaded.first_flush_takes`, `Threaded.lt_stops`).

  3. **The equivalence** — if fewer sessions were reported than ended, look at the first that was
     not.  No flush up to now has taken its folder, as the statement holds of them; so the present
     one takes it, and breaks the statement.

  4. **A run** — a second session ends before the recorder has finished the files of the first.  The
     report of the first lets a flush take both folders.

  A flush that is asked for without a report is not excluded in 3., which speaks of any flush.

  Main statements: `flush_reported_iff` and `unreported_session_flushed`.
-/

namespace PushToTalk

open Upload (Job JobId Queue)

/-- A report of completion. -/
def Move.isReport : Move → Bool
  | .notify => true
  | _ => false

/-- A judgement leaves the folders that it does not name as they are. -/
theorem Ownership.finish_keeps {root : Path} {n : Nat} {reg : Registry} {paths : List Path}
    (hd : reg.Distinct) (hs : ∀ f ∈ reg.folders, IsSession root n f.path)
    (hp : ∀ p ∈ paths, IsSession root n p) (d : Disk) {f : Folder} (hf : f ∈ reg.folders)
    (hnot : f.path ∉ paths) : f ∈ (Registry.finish d reg paths).2.folders := by
  obtain ⟨-, g, hg, hjudge⟩ := Registry.finish_judges d hd paths
  have hsame : g f = f := (Ownership.judged (hjudge f hf) (hs f hf) hp).2.2 hnot
  rw [hg]
  exact List.mem_map.2 ⟨f, hf, hsame⟩

namespace Relay

/-- A folder that no flush has taken stays registered as it was. -/
theorem Step.keeps_folder {root : Path} {n : Nat} {r r' : Relay} {m : Move}
    (hown : Ownership root n r.station.folders r.queue) (h : r.Step m r') {f : Folder}
    (hf : f ∈ r.station.folders.folders) (hs : f.state = .recording)
    (hflush : r.flushesOn m = true → f.path ∉ r.flushJob.folders)
    (hjobs : ∀ job ∈ r.queue.jobs, f.path ∉ job.folders) :
    f ∈ r'.station.folders.folders := by
  -- only a flush and the end of a worker judge folders, and both judge only those of their job
  cases h with
  | quiet _ _ hq => rwa [hq.folders]
  | start _ _ he =>
    rw [he]
    exact List.mem_append_left _ hf
  | stop _ _ he =>
    rw [he]
    exact hf
  | flush hm hq =>
    have hscan : f ∈ r.station.folders.afterScan.folders :=
      Ownership.mem_afterScan_of_not_mem hf (by rw [hs]; decide) (hflush hm)
    rw [hq.folders]
    rcases flush_cases r with ⟨queue, id, -, he⟩ | he <;> rw [he]
    · exact hscan
    · exact Ownership.finish_keeps (Ownership.distinct_afterScan hown.distinct)
        hown.session_afterScan (fun p hp => (hown.eligible_spec hp).1) _ hscan (hflush hm)
  | record _ he =>
    rw [he]
    rcases record_cases r _ _ with he | ⟨folder, disk, -, -, he⟩ <;> rw [he] <;> exact hf
  | dispatch _ he =>
    rw [he]
    rcases dispatch_cases r with he | ⟨queue, -, he⟩ <;> rw [he] <;> exact hf
  | @advance id _ he =>
    rw [he]
    rcases advance_cases r id with he | ⟨w, s', w', hrun, hadv, he⟩ <;> rw [he]
    · exact hf
    rcases hadv.folders with ⟨-, rfl, -⟩ | ⟨-, hfolders⟩
    · obtain ⟨job, ho, hserves, -⟩ := hown.job_of_running hrun
      have hjob : job ∈ r.queue.jobs := List.mem_of_getElem? ho.1
      show f ∈ (Registry.finish r.station.disk r.station.folders w.folders).2.folders
      rw [hserves.folders]
      exact Ownership.finish_keeps hown.distinct hown.session (hown.jobSession job hjob) _ hf
        (hjobs job hjob)
    · show f ∈ s'.folders.folders
      rwa [hfolders]
  | answer _ he =>
    rw [he]
    rcases answerWorker_cases r _ _ with
      he | ⟨w, s', w', request, file, -, -, -, hrec, he⟩ <;> rw [he]
    · exact hf
    · show f ∈ s'.folders.folders
      rwa [hrec.folders.2]
  | close _ he =>
    rw [he]
    exact hf

end Relay

namespace History

variable {h : History} {i j k : Nat} {m : Move}

/-- How many sessions the recorder has reported in the first `i` steps.  One that reports as it is
told to stop has reported all that were ended. -/
def reported (h : History) (i : Nat) : Nat :=
  (h.steps.take i).countP Move.isReport +
    bif h.recorder.notifiesOnStop then (h.after i).stops else 0

/-- The recorder reports the sessions one by one, each after its end. -/
def ReportsInOrder (h : History) : Prop := ∀ i, h.reported i ≤ (h.after i).stops

/-- No flush takes place unless completion was reported. -/
def FlushesWhenTold (h : History) : Prop := ∀ m ∈ h.moves, m ≠ .flush

/-! ## Counting -/

/-- Ended sessions stay ended. -/
theorem stops_mono (h : History) (hij : i ≤ j) : (h.after i).stops ≤ (h.after j).stops := by
  refine h.keeps (P := fun r => (h.after i).stops ≤ r.stops) (Nat.le_refl _) ?_ hij
  intro j m _ hm hle
  rcases (step_at hm).edge with ⟨-, -, he⟩ | ⟨-, -, he⟩ | ⟨-, ht, -⟩
  · rw [he, Relay.stops_startSession]
    exact hle
  · rw [he, Relay.stops_endSession]
    omega
  · rw [Relay.stops_eq ht]
    exact hle

/-- Reports are not taken back, nor are the ends that a recorder reports by itself. -/
theorem reported_mono (h : History) (hij : i ≤ j) : h.reported i ≤ h.reported j := by
  have hcount : (h.steps.take i).countP Move.isReport ≤ (h.steps.take j).countP Move.isReport :=
    (List.take_prefix_take_left hij).sublist.countP_le
  have hstops := h.stops_mono hij
  unfold reported
  cases h.recorder.notifiesOnStop <;> simp only [cond_true, cond_false] <;> omega

/-! ## Folders of sessions that were ended -/

section Folders

variable (hn : h.final.starts ≤ UInt64.size)
include hn

/-- The folder of session `k` is registered and was not handed out yet. -/
def Waits (h : History) (k i : Nat) : Prop :=
  ∃ f ∈ (h.after i).station.folders.folders,
    f.path = sessionFolder h.options.root k ∧ f.state = .recording

/-- A session that starts in a step gets its folder then. -/
theorem waits_of_start (hm : h.steps[i]? = some m) (hold : ¬ k < (h.after i).starts)
    (hk : k < (h.after (i + 1)).starts) : h.Waits k (i + 1) := by
  rcases (step_at hm).edge with ⟨-, -, he⟩ | ⟨-, -, he⟩ | ⟨-, ht, -⟩
  · have hle := h.starts_le_final (i + 1)
    rw [he, Relay.starts_startSession] at hk hle
    obtain rfl : k = (h.after i).starts := by omega
    have hnext : (h.after i).nextSession.toNat = (h.after i).starts :=
      (h.owned_after i).next (by omega)
    unfold Waits
    rw [he]
    refine ⟨_, List.mem_append_right _ (List.mem_singleton_self _), ?_, rfl⟩
    show sessionFolder (h.after i).options.root (h.after i).nextSession.toNat = _
    rw [hnext, h.options_after]
  · rw [he, Relay.starts_endSession] at hk
    exact absurd hk hold
  · rw [Relay.starts_eq ht] at hk
    exact absurd hk hold

/-- The folder of a session waits for the first flush that may take it. -/
theorem waits_for_flush (hk : k < (h.after i).starts)
    (hnone : ∀ j < i, h.FlushesAt j → sessionFolder h.options.root k ∉ (h.jobAt j).folders) :
    h.Waits k i := by
  -- on the steps; the folder comes with the start of its session, and from then on no flush has
  -- taken it
  induction i with
  | zero => exact absurd hk (Nat.not_lt_zero k)
  | succ i ih =>
    have hnone' : ∀ j < i, h.FlushesAt j →
        sessionFolder h.options.root k ∉ (h.jobAt j).folders := fun j hj => hnone j (by omega)
    cases hm : h.steps[i]? with
    | none =>
      unfold Waits
      rw [after_succ_of_none hm] at hk ⊢
      exact ih hk hnone'
    | some m =>
      by_cases hold : k < (h.after i).starts
      · obtain ⟨f, hf, hp, hs⟩ := ih hold hnone'
        refine ⟨f, (step_at hm).keeps_folder (ownership_after hn i) hf hs ?_ ?_, hp, hs⟩
        · intro hflush
          rw [hp]
          exact hnone i (Nat.lt_succ_self i) ⟨m, hm, hflush⟩
        · intro job hj
          obtain ⟨j, hlt, hflush, rfl⟩ := job_origin hj
          rw [hp]
          exact hnone' j hlt hflush
      · exact waits_of_start hn hm hold hk

/-- A flush may take the folders of sessions that were ended, and no others. -/
theorem Threaded.lt_stops (threaded : h.Threaded)
    (hk : sessionFolder h.options.root k ∈ (h.jobAt i).folders) : k < (h.after i).stops := by
  have hown := ownership_after hn i
  obtain ⟨hstarts, hactive⟩ := threaded.alternates i
  obtain ⟨⟨l, hl, hkl⟩, hidle, -⟩ := hown.eligible_spec hk
  obtain rfl := sessionFolder_injective hkl
  cases hseen : h.seen i with
  | false =>
    rw [hseen] at hstarts
    simpa [hstarts] using hl
  | true =>
    -- the session that runs is the last one, and its folder is not taken
    rw [hseen] at hstarts hactive
    obtain ⟨a, ha⟩ := Option.isSome_iff_exists.1 hactive
    obtain ⟨⟨last, hlast, rfl⟩, -, -⟩ := hown.active a ha
    have hne : k ≠ last := by
      rintro rfl
      exact hidle ha
    rw [Bool.toNat_true] at hstarts
    omega

/-- The first flush after the end of a session takes its folder, whether it was reported or not. -/
theorem Threaded.first_flush_takes (threaded : h.Threaded) (hk : k < (h.after i).stops)
    (hnone : ∀ j < i, h.FlushesAt j → sessionFolder h.options.root k ∉ (h.jobAt j).folders) :
    sessionFolder h.options.root k ∈ (h.jobAt i).folders := by
  have hown := ownership_after hn i
  obtain ⟨hstarts, hactive⟩ := threaded.alternates i
  obtain ⟨f, hf, hp, hs⟩ := waits_for_flush hn (i := i) (k := k) (by omega) hnone
  have hidle : (h.after i).station.folders.isActive f.path = false := by
    cases hact : (h.after i).station.folders.isActive f.path with
    | false => rfl
    | true =>
      have ha := (hown.isActive_iff hf).1 hact
      obtain ⟨⟨last, hlast, he⟩, -, -⟩ := hown.active _ ha
      rw [hp] at he
      obtain rfl := sessionFolder_injective he
      have hseen : h.seen i = true := by rw [← hactive, ha]; rfl
      rw [hseen, Bool.toNat_true] at hstarts
      omega
  refine (Ownership.mem_eligible _).2 ⟨f, hf, ?_, hp⟩
  simp [Registry.isEligible, hs, hidle]

end Folders

/-- A flush takes the folders of reported sessions only, exactly if every session that was ended
has been reported by then. -/
theorem flush_reported_iff (h : History) (threaded : h.Threaded) (order : h.ReportsInOrder)
    (hn : h.final.starts ≤ UInt64.size) :
    (∀ i, h.FlushesAt i → ∀ k, sessionFolder h.options.root k ∈ (h.jobAt i).folders →
        k < h.reported i) ↔
      ∀ i, h.FlushesAt i → h.reported i = (h.after i).stops := by
  constructor
  · intro hall i hflush
    refine Classical.byContradiction fun hne => ?_
    have hlt : h.reported i < (h.after i).stops := Nat.lt_of_le_of_ne (order i) hne
    -- the first session without a report was not taken before, so it is taken now
    have htaken := threaded.first_flush_takes hn hlt fun j hj hflush hk => by
      have hreported := hall j hflush _ hk
      have hmono := h.reported_mono (Nat.le_of_lt hj)
      omega
    exact Nat.lt_irrefl _ (hall i hflush _ htaken)
  · intro hall i hflush k hk
    rw [hall i hflush]
    exact threaded.lt_stops hn hk

/-- The recorder of the sample reports as it is told to stop, so no flush is ahead of it. -/
theorem flush_reported_iff_sample : sample.Threaded ∧ sample.ReportsInOrder ∧
    sample.final.starts ≤ UInt64.size ∧ ∀ i, sample.FlushesAt i →
      ∀ k, sessionFolder sample.options.root k ∈ (sample.jobAt i).folders →
        k < sample.reported i := by
  have threaded : sample.Threaded := threaded_iff.2 (by cbv)
  have hall : ∀ i, sample.reported i = (sample.after i).stops := by
    intro i
    have hnone : sample.steps.countP Move.isReport = 0 := by cbv
    have hle := (List.take_sublist i sample.steps).countP_le (p := Move.isReport)
    show (sample.steps.take i).countP Move.isReport + (sample.after i).stops = _
    omega
  have order : sample.ReportsInOrder := fun i => Nat.le_of_eq (hall i)
  have hn : sample.final.starts ≤ UInt64.size := Nat.le_trans sample.starts_final_le (by decide)
  exact ⟨threaded, order, hn, (sample.flush_reported_iff threaded order hn).2 fun i _ => hall i⟩

/-- A second session ends before the recorder has finished the files of the first. -/
def overlapping : History where
  disk := .blank
  options := Relay.sample.options
  settings := ⟨"localhost", 8080, "radio"⟩
  recorder := .folderOnly false
  moves := [.speech 1 0, .toggle false, .record "1-a.wav" (.file [7]), .sweep 1000, .toggle true,
    .speech 2 2000, .toggle false, .record "2-b.wav" (.file [8]), .sweep 3000, .toggle true,
    .notify, .flushIfStopped, .notify, .flushIfStopped]

/-- In that run each comparison is with what the one before has seen. -/
theorem overlapping_threaded : overlapping.Threaded := threaded_iff.2 (by cbv)

/-- The first report comes when both sessions have ended, and there are two in all. -/
theorem overlapping_reportsInOrder : overlapping.ReportsInOrder := by
  intro i
  rcases Nat.lt_or_ge i 11 with hlt | hge
  · have hfirst : overlapping.reported 10 = 0 := by cbv
    have hmono := overlapping.reported_mono (Nat.le_of_lt_succ hlt)
    omega
  · have hall : overlapping.steps.countP Move.isReport = 2 := by cbv
    have hle := (List.take_sublist i overlapping.steps).countP_le (p := Move.isReport)
    have hstops : (overlapping.after 11).stops = 2 := by cbv
    have hmono := overlapping.stops_mono hge
    show (overlapping.steps.take i).countP Move.isReport + 0 ≤ _
    omega

/-- The flush that follows the first report takes the folder of the second session as well. -/
theorem unreported_session_flushed : ¬ ∀ h : History, h.Threaded → h.FlushesWhenTold →
    h.ReportsInOrder → ∀ i, h.FlushesAt i →
      ∀ k, sessionFolder h.options.root k ∈ (h.jobAt i).folders → k < h.reported i := by
  intro hall
  have hstep : overlapping.steps[11]? = some .flushIfStopped := by cbv
  have htold : (overlapping.after 11).stopped = true := by cbv
  have hflush : overlapping.FlushesAt 11 := ⟨_, hstep, htold⟩
  have hfolders : (overlapping.after 11).station.folders.eligible =
      [⟨["rec", "voice0"]⟩, ⟨["rec", "voice1"]⟩] := by cbv
  have htaken : sessionFolder overlapping.options.root 1 ∈ (overlapping.jobAt 11).folders := by
    show sessionFolder overlapping.options.root 1 ∈ (overlapping.after 11).station.folders.eligible
    rw [hfolders, show sessionFolder overlapping.options.root 1 = ⟨["rec", "voice1"]⟩ by cbv]
    simp
  have hreported : overlapping.reported 11 = 1 := by cbv
  have hlt := hall overlapping overlapping_threaded (by simp [FlushesWhenTold, overlapping])
    overlapping_reportsInOrder 11 hflush 1 htaken
  omega

end History

end PushToTalk
