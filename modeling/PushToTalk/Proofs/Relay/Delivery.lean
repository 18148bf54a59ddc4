import Mathlib
import PushToTalk.Proofs.Relay.Ownership
import PushToTalk.Proofs.Upload.Verdict

/-
  A recording is delivered once at most.

  A listener must not hear the same recording twice, so the verdict of the backend on a file, once
  it has come, has to be the last word about it: nobody may send the file again, or ask for it to be
  put into the chat again.

  The backend's verdict on a file is followed by its deletion.  Until then the worker that has the
  verdict keeps the file to itself, and afterwards no worker can read the file any more.  Two things
  can stand in the way.  Other workers might hold the file as well; but two jobs never list one file
  (`Ownership.same_job`).  And a later job might list it again, since a file that could not be
  deleted is still there.

  1. **The condition on the run** — `StaysDeleted` asks that every file which a worker deletes is
     away from then on.  It is about the disk and the recorder, which the relay does not command.

  2. **The invariant** — `Settled gone` has four parts: exchanges are about files of jobs, a verdict
     is the last word among them, no worker sends a file that there is a verdict on, and such a file
     is gone or about to be deleted.  The third part is what the second needs for the next exchange,
     and the fourth is what the third needs when a worker takes up its next file.

  3. **Runs** — `gone` grows with each deletion (`settled_move`), so the induction over a run is
     over all `gone` (`settled_run`).

  Main statements: `settled_move` and `delivered_once`.
-/

namespace PushToTalk

open Upload (Job JobId Queue Worker Exchange Stage)

namespace Relay

/-- The file that a move deletes. -/
def deletes? (r : Relay) : Move → Option Path
  | .advance id => (r.queue.worker? id).bind fun w => w.stage.clears?
  | _ => none

/-- The file is not there, now and in every later state of a run. -/
def StaysAway (file : Path) : Relay → List Move → Prop
  | r, [] => r.station.disk.holds file = false
  | r, m :: later => r.station.disk.holds file = false ∧ StaysAway file (r.move m) later

/-- Every file that a worker deletes is away from then on: its removal succeeds, and its path is
not written again. -/
def StaysDeleted : Relay → List Move → Prop
  | _, [] => True
  | r, m :: later =>
    (match r.deletes? m with
      | some file => StaysAway file (r.move m) later
      | none => True) ∧
    StaysDeleted (r.move m) later

/-- What stays away is away now. -/
theorem StaysAway.now {file : Path} {r : Relay} {moves : List Move} (h : StaysAway file r moves) :
    r.station.disk.holds file = false := by
  cases moves with
  | nil => exact h
  | cons m later => exact h.1

/-- No word follows a verdict. -/
structure Settled (gone : Path → Prop) (r : Relay) : Prop where
  /-- The exchanges are about files of jobs. -/
  listed : ∀ x ∈ r.exchanges, ∃ job ∈ r.queue.jobs, x.file ∈ job.files
  last : r.exchanges.Pairwise fun x y => x.IsVerdict → x.file ≠ y.file
  /-- No worker sends a file that there is a verdict on. -/
  silent : ∀ x ∈ r.exchanges, x.IsVerdict → ∀ e ∈ r.queue.running,
    e.2.stage.sends? ≠ some x.file
  /-- A file that there is a verdict on is gone or about to be deleted. -/
  cleared : ∀ x ∈ r.exchanges, x.IsVerdict →
    gone x.file ∨ ∃ e ∈ r.queue.running, e.2.stage.clears? = some x.file

variable {gone : Path → Prop} {r : Relay}

/-- More may be gone than is known of. -/
theorem Settled.mono {gone' : Path → Prop} (h : Settled gone r)
    (hle : ∀ file, gone file → gone' file) : Settled gone' r :=
  { h with cleared := fun x hx hv => (h.cleared x hx hv).imp_left (hle x.file) }

/-- What becomes of verdicts hangs on the exchanges, the jobs and the workers only. -/
theorem Settled.congr {r' : Relay} (h : Settled gone r) (hx : r'.exchanges = r.exchanges)
    (hq : r'.queue = r.queue) : Settled gone r' := by
  refine ⟨?_, ?_, ?_, ?_⟩
  · rw [hx, hq]
    exact h.listed
  · rw [hx]
    exact h.last
  · rw [hx, hq]
    exact h.silent
  · rw [hx, hq]
    exact h.cleared

/-- A flush may add a job, which says nothing yet. -/
theorem Settled.flush (h : Settled gone r) : Settled gone r.flush.1 := by
  rcases flush_cases r with ⟨queue, id, hs, he⟩ | he
  · rw [he]
    obtain ⟨-, rfl⟩ := Queue.submit_eq_ok hs
    refine ⟨fun x hx => ?_, h.last, h.silent, h.cleared⟩
    obtain ⟨job, hj, hm⟩ := h.listed x hx
    exact ⟨job, List.mem_append_left _ hj, hm⟩
  · rw [he]
    exact h.congr rfl rfl

/-- A new entry is nothing that was said. -/
theorem Settled.record (h : Settled gone r) (name : String) (node : Disk.Node) :
    Settled gone (r.record name node) := by
  rcases record_cases r name node with he | ⟨folder, disk, -, -, he⟩
  · rwa [he]
  · rw [he]
    exact h.congr rfl rfl

/-- A worker that begins has no file in hand, so it sends none and deletes none. -/
theorem Settled.dispatch (h : Settled gone r) : Settled gone r.dispatch := by
  rcases dispatch_cases r with he | ⟨queue, hd, he⟩
  · rwa [he]
  rw [he]
  obtain ⟨id, job, later, -, rfl⟩ := Queue.dispatch_eq_some hd
  refine ⟨h.listed, h.last, fun x hx hv e he => ?_, fun x hx hv => ?_⟩
  · rcases Queue.mem_running_dispatch hd he with hold | ⟨job, hnew⟩
    · exact h.silent x hx hv e hold
    · rw [hnew]
      exact fun hf => by cases hf
  · rcases h.cleared x hx hv with hg | ⟨e, he, hc⟩
    · exact Or.inl hg
    · exact Or.inr ⟨e, List.mem_append_left _ he, hc⟩

/-- A worker that makes a step of its own takes up no file that there is a verdict on. -/
theorem Settled.advance (h : Settled gone r) (hown : r.Owned) (hn : r.starts ≤ UInt64.size) {id : JobId}
    (hdel : ∀ file, r.deletes? (.advance id) = some file → gone file)
    (haway : ∀ file, gone file → r.deletes? (.advance id) = some file ∨
      r.station.disk.holds file = false) : Settled gone (r.advance id) := by
  rcases advance_cases r id with hmove | ⟨w, s', w', hrun, hadv, hmove⟩
  · rwa [hmove]
  rw [hmove]
  have hown := hown.ownership hn
  have hdeletes : r.deletes? (.advance id) = w.stage.clears? := by
    show (r.queue.worker? id).bind _ = _
    rw [hown.queue.worker?_eq_some hrun]
    rfl
  refine ⟨?_, h.last, fun x hx hv e he => ?_, fun x hx hv => ?_⟩
  · show ∀ x ∈ r.exchanges, ∃ job ∈ (r.queue.update id w').jobs, x.file ∈ job.files
    rw [Queue.update_jobs]
    exact h.listed
  · rcases Queue.mem_running_update he with ⟨hold, -⟩ | rfl
    · exact h.silent x hx hv e hold
    intro hf
    rcases hadv.sends hf with hs | ⟨hfile, hnot, hholds⟩
    · exact h.silent x hx hv _ hrun hs
    · -- a file that can be read is neither gone nor in the hands of another worker
      rcases h.cleared x hx hv with hg | ⟨⟨id', v⟩, hv', hc⟩
      · rcases haway x.file hg with hd | hd
        · rw [hdeletes, hnot] at hd
          cases hd
        · rw [hholds] at hd
          cases hd
      · obtain ⟨-, rfl⟩ := hown.same_worker hrun hv' hfile (Stage.file?_of_clears hc)
        rw [hnot] at hc
        cases hc
  · rcases h.cleared x hx hv with hg | ⟨e, he, hc⟩
    · exact Or.inl hg
    -- a worker that moves on from a verdict has just deleted the file
    by_cases hid : e.1 = id
    · have heq : e = (id, w) := by
        obtain ⟨id', v⟩ := e
        obtain rfl : id' = id := hid
        rw [hown.queue.worker_unique he hrun]
      rw [heq] at hc
      exact Or.inl (hdel x.file (hdeletes.trans hc))
    · exact Or.inr ⟨e, Queue.mem_update_of_ne he hid, hc⟩

/-- An exchange that ends is about a file without a verdict, and a verdict puts an end to what is
said about the file. -/
theorem Settled.answerWorker (h : Settled gone r) (hown : r.Owned) (hn : r.starts ≤ UInt64.size)
    (id : JobId) (answer : Answer) : Settled gone (r.answerWorker id answer) := by
  rcases answerWorker_cases r id answer with
    hmove | ⟨w, s', w', request, file, hrun, hreq, hfile, hrec, hmove⟩
  · rwa [hmove]
  rw [hmove]
  have hown := hown.ownership hn
  have hsends := Stage.sends_of_request hreq hfile
  -- the worker still sends the file, so there is no verdict on it yet
  have hnone : ∀ x ∈ r.exchanges, x.IsVerdict → x.file ≠ file := fun x hx hv he =>
    h.silent x hx hv _ hrun (he ▸ hsends)
  -- an exchange is an old one or the new one, and a worker is another one or the one that was
  -- answered
  refine ⟨fun x hx => ?_, ?_, fun x hx hv e he => ?_, fun x hx hv => ?_⟩
  · show ∃ job ∈ (r.queue.update id _).jobs, x.file ∈ job.files
    rw [Queue.update_jobs]
    rcases List.mem_append.1 hx with hold | hnew
    · exact h.listed x hold
    · obtain rfl := List.mem_singleton.1 hnew
      obtain ⟨job, ho, hserves, -⟩ := hown.job_of_running hrun
      exact ⟨job, List.mem_of_getElem? ho.1,
        hserves.files file (Worker.mem_ahead_of_stage hfile)⟩
  · refine List.pairwise_append.2 ⟨h.last, List.pairwise_singleton _ _, fun x hx y hy hv => ?_⟩
    obtain rfl := List.mem_singleton.1 hy
    exact hnone x hx hv
  · intro hf
    rcases List.mem_append.1 hx with hold | hnew
    · rcases Queue.mem_running_update he with ⟨hin, -⟩ | rfl
      · exact h.silent x hold hv e hin hf
      · exact h.silent x hold hv _ hrun (hrec.sends hf)
    · obtain rfl := List.mem_singleton.1 hnew
      rcases Queue.mem_running_update he with ⟨hin, hne⟩ | rfl
      · exact hne (hown.same_worker hin hrun (Stage.file?_of_sends hf) hfile).1
      · -- a verdict takes the worker from sending to deleting, and no stage is both
        have hc := hrec.clears_of_verdict hreq hfile hv
        cases hstage : w'.stage <;>
          simp [hstage, Stage.sends?, Stage.clears?] at hf hc
  · rcases List.mem_append.1 hx with hold | hnew
    · rcases h.cleared x hold hv with hg | ⟨e, he, hc⟩
      · exact Or.inl hg
      · refine Or.inr ⟨e, Queue.mem_update_of_ne he fun hid => ?_, hc⟩
        obtain ⟨id', v⟩ := e
        obtain rfl : id' = id := hid
        rw [hown.queue.worker_unique he hrun] at hc
        exact hnone x hold hv (Option.some.inj ((Stage.file?_of_clears hc).symm.trans hfile))
    · obtain rfl := List.mem_singleton.1 hnew
      have hc := hrec.clears_of_verdict hreq hfile hv
      refine Or.inr ⟨_, Queue.mem_update_self hrun ?_ ?_, hc⟩
      · intro hs
        rw [hs] at hc
        cases hc
      · intro hs
        rw [hs] at hc
        cases hc

/-- Every move leaves verdicts the last word, as long as what is gone cannot be read. -/
theorem settled_move (h : Settled gone r) (hown : r.Owned) {m : Move}
    (hn : r.starts ≤ UInt64.size) (haway : ∀ file, gone file → r.station.disk.holds file = false) :
    Settled (fun file => gone file ∨ r.deletes? m = some file) (r.move m) := by
  refine move_keeps (P := Settled fun file => gone file ∨ r.deletes? m = some file)
    ⟨?_, ?_, ?_, ?_, ?_, ?_, ?_, ?_, ?_⟩ (h.mono fun file hg => Or.inl hg)
  · exact fun hq hs => hs.congr hq.exchanges hq.queue
  · exact fun hs => hs.congr rfl rfl
  · exact fun hs => hs.congr rfl rfl
  · exact fun hs => hs.flush
  · exact fun _ hs => hs.record _ _
  · exact fun _ hs => hs.dispatch
  · rintro id rfl hs
    exact hs.advance hown hn (fun file hd => Or.inr hd) fun file hg =>
      hg.elim (fun hg => Or.inr (haway file hg)) Or.inl
  · exact fun _ hs => hs.answerWorker hown hn _ _
  · exact fun _ hs => ⟨hs.listed, hs.last, hs.silent, hs.cleared⟩

/-- In every state of a run in which deleted files stay deleted, verdicts are the last word. -/
theorem settled_run {moves : List Move} (h : Settled gone r) (hown : r.Owned)
    (hn : (r.run moves).starts ≤ UInt64.size) (haway : ∀ file, gone file → StaysAway file r moves)
    (hd : StaysDeleted r moves) : ∃ gone', Settled gone' (r.run moves) := by
  -- what is gone grows from move to move
  induction moves generalizing r gone with
  | nil => exact ⟨gone, h⟩
  | cons m later ih =>
    have hle : r.starts ≤ UInt64.size := Nat.le_trans (starts_le_run r (m :: later)) hn
    refine ih (settled_move h hown hle fun file hg => (haway file hg).now)
      (move_keeps (upholds_owned m r) hown) hn ?_ hd.2
    rintro file (hg | hdel)
    · exact (haway file hg).2
    · have haway := hd.1
      rw [hdel] at haway
      exact haway

/-- The verdict on a file is the only one, and no word about the file follows it: no exchange
after it is about the file, and no worker is in one. -/
theorem delivered_once (disk : Disk) (options : Options) (settings : Settings)
    (recorder : Recorder) (moves : List Move)
    (hn : ((startOn disk options settings recorder).run moves).starts ≤ UInt64.size)
    (hd : StaysDeleted (startOn disk options settings recorder) moves)
    (before : List Exchange) (x : Exchange) (after : List Exchange)
    (hx : ((startOn disk options settings recorder).run moves).exchanges = before ++ x :: after)
    (hv : x.IsVerdict) :
    (∀ y ∈ before, y.IsVerdict → (y.file == x.file) = false) ∧
      (∀ y ∈ after, (y.file == x.file) = false) ∧
      ∀ e ∈ ((startOn disk options settings recorder).run moves).queue.running,
        ∀ request, e.2.stage.request? = some request →
          ∀ file, e.2.stage.file? = some file → (file == x.file) = false := by
  have hempty : Settled (fun _ => False) (startOn disk options settings recorder) :=
    ⟨fun x hx => absurd hx List.not_mem_nil, List.Pairwise.nil,
      fun x hx => absurd hx List.not_mem_nil, fun x hx => absurd hx List.not_mem_nil⟩
  obtain ⟨gone, hs⟩ := settled_run hempty (owned_startOn disk options settings recorder) hn
    (fun _ hg => hg.elim) hd
  have hown := (owned_run disk options settings recorder moves).ownership hn
  -- files of jobs are equal only if they are spelled the same
  have hne : ∀ {job job' : Job} {file file' : Path}, job ∈ Queue.jobs _ → job' ∈ Queue.jobs _ →
      file ∈ job.files → file' ∈ job'.files → file ≠ file' → (file == file') = false :=
    fun hj hj' hf hf' hne => by
      rw [← Bool.not_eq_true]
      exact fun he => hne (hown.same_folder hj hj' hf hf' he).1
  have hlisted := hs.listed
  have hlast := hs.last
  have hsilent := hs.silent x (hx ▸ List.mem_append_right _ List.mem_cons_self) hv
  rw [hx] at hlisted hlast
  obtain ⟨hbefore, hafter, hacross⟩ := List.pairwise_append.1 hlast
  obtain ⟨job, hj, hf⟩ := hlisted x (List.mem_append_right _ List.mem_cons_self)
  refine ⟨fun y hy hvy => ?_, fun y hy => ?_, fun e he request hr file hfile => ?_⟩
  · obtain ⟨job', hj', hf'⟩ := hlisted y (List.mem_append_left _ hy)
    exact hne hj' hj hf' hf (hacross y hy x List.mem_cons_self hvy)
  · obtain ⟨job', hj', hf'⟩ :=
      hlisted y (List.mem_append_right _ (List.mem_cons_of_mem _ hy))
    exact hne hj' hj hf' hf fun he => (List.pairwise_cons.1 hafter).1 y hy hv he.symm
  · obtain ⟨job', ho', hserves, -⟩ := hown.job_of_running he
    refine hne (List.mem_of_getElem? ho'.1) hj
      (hserves.files file (Worker.mem_ahead_of_stage hfile)) hf ?_
    rintro rfl
    exact hsilent e he (Stage.sends_of_request hr hfile)

/-- In the sample run the deleted file stays deleted, and the third exchange is the verdict. -/
theorem delivered_once_sample : ∃ before x, StaysDeleted sample sampleMoves ∧
    (sample.run sampleMoves).exchanges = before ++ x :: [] ∧ x.IsVerdict ∧
    ∀ y ∈ before, y.IsVerdict → (y.file == x.file) = false := by
  have hn : (sample.run sampleMoves).starts ≤ UInt64.size :=
    Nat.le_trans (starts_run_le sample sampleMoves) (by decide)
  have hd : StaysDeleted sample sampleMoves := by cbv
  have hlength : (sample.run sampleMoves).exchanges.length = 3 := by cbv
  obtain ⟨a, b, x, hx⟩ := List.length_eq_three.1 hlength
  have hlast : (sample.run sampleMoves).exchanges.getLast? = some ⟨⟨["rec", "voice0", "1-a.wav"]⟩,
      Upload.finalizeRequest "User1" "radio" "x" ⟨some 3, some 4⟩, .body ""⟩ := by cbv
  have hv : x.IsVerdict := by
    rw [hx] at hlast
    obtain rfl := Option.some.inj hlast
    exact ⟨⟨"User1", "radio", "x", ⟨some 3, some 4⟩, rfl⟩, "", rfl⟩
  exact ⟨[a, b], x, hd, hx, hv, (delivered_once _ _ _ _ _ hn hd [a, b] x [] hx hv).1⟩

end Relay

end PushToTalk
