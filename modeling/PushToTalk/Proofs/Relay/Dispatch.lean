import PushToTalk.Proofs.Relay.History
import PushToTalk.Proofs.Upload.Dispatcher

/-
  The relay's queue is what a dispatcher shows.

  The relay starts a worker in one step: it takes the first job that waits, if fewer workers run
  than may.  The dispatcher takes more steps for it.  It receives a job, waits for a permit, and
  starts the worker only then; jobs stand in its channel, in its hands or with a worker.
  `Upload.Dispatcher` says in which states its queue can be seen, and everything proved there about
  order, permits and reports is to hold of the relay as well.

  So here the two are put together.  As long as the dispatcher is there, each step of the relay is
  one that the queue makes by itself, or nothing to the queue (`Step.queue`).  And the queues that a
  dispatcher shows are exactly those that the queue's own steps reach
  (`Dispatcher.queue_reached_iff`).  Hence the relay's queue is at any time one that a dispatcher
  with its channel and its permits shows.

  When the dispatcher goes away, the jobs that wait are lost and no new ones are taken; nothing is
  said of the time after that.

  Main statement: `History.queue_shown`.
-/

namespace PushToTalk

open Upload (Dispatcher Queue)

/-- As long as the dispatcher is there, a step is nothing to the queue or one of its own. -/
theorem Relay.Step.queue {r r' : Relay} {m : Move} (h : r.Step m r')
    (halive : r.queue.alive = true) (hopen : m ≠ .closeQueue) :
    ∃ steps, r'.queue = r.queue.run steps := by
  cases h with
  | quiet _ _ hq => exact ⟨[], hq.queue⟩
  | start _ _ he => exact ⟨[], by rw [he]; rfl⟩
  | stop _ _ he => exact ⟨[], by rw [he]; rfl⟩
  -- a queue that is not closed takes every job
  | flush _ hq =>
    refine ⟨[.submit r.flushJob], hq.queue.trans ?_⟩
    rw [flush_of_alive halive]
    simp [Queue.run, Queue.step, Queue.submit_of_alive halive]
  | record _ he =>
    rw [he]
    rcases record_cases r _ _ with he | ⟨folder, disk, -, -, he⟩ <;> rw [he] <;> exact ⟨[], rfl⟩
  | dispatch _ he =>
    rw [he]
    rcases dispatch_cases r with he | ⟨queue, hd, he⟩ <;> rw [he]
    · exact ⟨[], rfl⟩
    · exact ⟨[.spawn], by simp [Queue.run, Queue.step, hd]⟩
  | @advance id _ he =>
    rw [he]
    rcases advance_cases r id with he | ⟨w, s', w', hw, -, he⟩ <;> rw [he]
    · exact ⟨[], rfl⟩
    · have hid : id ∈ r.queue.running.map (·.1) := List.mem_map_of_mem (f := (·.1)) hw
      exact ⟨[.work id w'], by simp only [Queue.run, List.foldl, Queue.step, if_pos hid]⟩
  | @answer id answer _ he =>
    rw [he]
    rcases answerWorker_cases r id answer with he | ⟨w, s', w', request, file, hw, -, -, -, he⟩ <;>
      rw [he]
    · exact ⟨[], rfl⟩
    · have hid : id ∈ r.queue.running.map (·.1) := List.mem_map_of_mem (f := (·.1)) hw
      exact ⟨[.work id w'], by simp only [Queue.run, List.foldl, Queue.step, if_pos hid]⟩
  | close hm _ => exact absurd hm hopen

/-- Until the dispatcher goes away, the relay's queue is one that a dispatcher shows. -/
theorem History.queue_shown (h : History) {i : Nat}
    (hopen : ∀ j < i, h.steps[j]? ≠ some .closeQueue) :
    ∃ events, ((Dispatcher.start h.options.maxUploads).run events).queue = (h.after i).queue := by
  -- on the steps; the events of the dispatcher are turned into steps of the queue, and back with
  -- one more
  refine h.keeps_from (i := 0) (P := fun i => (∀ j < i, h.steps[j]? ≠ some .closeQueue) →
    ∃ events, ((Dispatcher.start h.options.maxUploads).run events).queue = (h.after i).queue)
    ?_ ?_ ?_ (Nat.zero_le i) hopen
  · exact fun _ => ⟨[], rfl⟩
  · intro i m _ hm ih hopen
    obtain ⟨events, hevents⟩ := ih fun j hj => hopen j (Nat.lt_succ_of_lt hj)
    have halive : (h.after i).queue.alive = true := hevents ▸ rfl
    obtain ⟨steps, hsteps⟩ := (step_at hm).queue halive fun he =>
      hopen i (Nat.lt_succ_self i) (he ▸ hm)
    obtain ⟨before, hbefore⟩ := (Dispatcher.queue_reached_iff _ _).1 ⟨events, hevents⟩
    refine (Dispatcher.queue_reached_iff _ _).2 ⟨before ++ steps, ?_⟩
    rw [hsteps, ← hbefore]
    exact List.foldl_append ..
  · intro i hm ih hopen
    rw [after_succ_of_none hm]
    exact ih fun j hj => hopen j (Nat.lt_succ_of_lt hj)

end PushToTalk
