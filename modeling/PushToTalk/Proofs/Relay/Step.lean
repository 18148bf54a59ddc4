import PushToTalk.Proofs.Upload.Queue
import PushToTalk.Proofs.Upload.Step
import PushToTalk.Relay.Move

/-
  What a move of the relay comes down to.

  There are fifteen moves, and most of what is proved about runs of the relay is an invariant: it
  holds at the start, and every move keeps it.  Going through the moves in each of these proofs
  would say the same thing over and over, since most moves change nothing that folders, jobs and
  files depend on, and a look of the detector is up to three moves in a row.  Here the moves are
  taken apart once.

  1. **Quiet changes.**  `Quiet` lists what folders, jobs and files depend on, and seven moves leave
     all of it as it is: naming a user, speech, a sweep, the report of completion and its being
     taken back, and the two moves of a tick fetch.
  2. **The others.**  One lemma for each says everything it can do: `flush_cases`, `record_cases`,
     `dispatch_cases`, `advance_cases` and `answerWorker_cases`.  They speak of the queue and of the
     workers through their own lemmas, so a change to a worker's step stays in the modules about it.
  3. **Moves and runs.**  `Upholds P r m` is what has to be shown of a property for a move to keep
     it, with one field for each kind of change.  From it follow `move_keeps` and, by induction over
     the moves, `run_keeps`.  An invariant is then a proof of nine fields, most of them one line.
  4. **Counters.**  Sessions are counted by what the recorder was told (`starts`).  A move starts
     one at most, so a run has no more sessions than moves, and their numbers stay in 64 bits on
     runs that are not longer than that.  The exchanges of the workers are only ever added to.

  The fields of `Upholds` that belong to the detector are asked of every relay, and the others of
  the relay that makes the move only.  The reason is `poll`: its flush comes after a sweep and a
  toggle, so the relay that flushes is not the one that was asked.

  Main statements: `move_keeps` and `run_keeps`.
-/

namespace PushToTalk

open Upload (JobId Queue Worker)

namespace Relay

/-- How many sessions were started, which is what the recorder was told. The numbers of the
folders are another count, since they go back to zero after 64 bits. -/
def starts (r : Relay) : Nat := (r.toggles.filterMap Toggle.folder?).length

/-- Nothing has changed that folders, jobs and files depend on. What may have changed are the
users with their names and times, the tick requests and fetches, and whether completion was
reported. -/
structure Quiet (r r' : Relay) : Prop where
  options : r'.options = r.options
  settings : r'.station.settings = r.station.settings
  cache : r'.station.cache = r.station.cache
  folders : r'.station.folders = r.station.folders
  disk : r'.station.disk = r.station.disk
  nextSession : r'.nextSession = r.nextSession
  queue : r'.queue = r.queue
  toggles : r'.toggles = r.toggles
  exchanges : r'.exchanges = r.exchanges

/-- No change at all is quiet. -/
theorem Quiet.refl (r : Relay) : Quiet r r := ⟨rfl, rfl, rfl, rfl, rfl, rfl, rfl, rfl, rfl⟩

/-- The count of sessions hangs on the toggles alone. -/
theorem starts_eq {r r' : Relay} (h : r'.toggles = r.toggles) : r'.starts = r.starts := by
  unfold starts
  rw [h]

/-- Names matter when a tick is requested and when a file is announced, and never for where files
are. -/
theorem quiet_setName (r : Relay) (user : UserId) (name : String) :
    Quiet r (r.setName user name) := ⟨rfl, rfl, rfl, rfl, rfl, rfl, rfl, rfl, rfl⟩

/-- Speech may start a tick fetch, which is not told to the recorder. The session itself is
started by the detector when it looks next. -/
theorem quiet_reportSpeech (r : Relay) (user : UserId) (now : Instant) :
    Quiet r (r.reportSpeech user now) := by
  unfold reportSpeech
  dsimp only
  split <;> exact ⟨rfl, rfl, rfl, rfl, rfl, rfl, rfl, rfl, rfl⟩

/-- A sweep ends the speaking of users; the session ends when the detector compares. -/
theorem quiet_sweep (r : Relay) (now : Instant) : Quiet r (r.sweep now) :=
  ⟨rfl, rfl, rfl, rfl, rfl, rfl, rfl, rfl, rfl⟩

/-- A report only sets the flag by which the next look flushes. -/
theorem quiet_notify (r : Relay) : Quiet r r.notify :=
  ⟨rfl, rfl, rfl, rfl, rfl, rfl, rfl, rfl, rfl⟩

/-- A flush that was asked for takes the report back before it starts. -/
theorem quiet_takeStopped (r : Relay) : Quiet r r.takeStopped :=
  ⟨rfl, rfl, rfl, rfl, rfl, rfl, rfl, rfl, rfl⟩

/-- A fetch goes to the backend, or there is no room for one. -/
theorem quiet_promote (r : Relay) : Quiet r r.promote := by
  unfold promote
  split <;> exact ⟨rfl, rfl, rfl, rfl, rfl, rfl, rfl, rfl, rfl⟩

/-- A fetch is answered, or it is not underway and the answer is for nobody. -/
theorem quiet_settleFetch (r : Relay) (id : FetchId) (answer : Answer) :
    Quiet r (r.settleFetch id answer) := by
  unfold settleFetch
  split <;> exact ⟨rfl, rfl, rfl, rfl, rfl, rfl, rfl, rfl, rfl⟩

/-! ## What the other moves do -/

/-- A flush hands what it found to the queue, or judges the folders at once because the
dispatcher is gone. Either way all tick requests leave the pending ones, and the folders have
been scanned. -/
theorem flush_cases (r : Relay) :
    (∃ queue id, r.queue.submit r.flushJob = .ok (queue, id) ∧ r.flush.1 = { r with
      station := { r.station with folders := r.station.folders.afterScan }
      pending := .empty
      queue }) ∨
    r.flush.1 = { r with
      station := Station.finish { r.station with folders := r.station.folders.afterScan }
        r.station.folders.eligible
      pending := .empty } := by
  unfold flush
  dsimp only
  split
  · next queue id hs => exact Or.inl ⟨queue, id, hs, rfl⟩
  · next job hs =>
    obtain rfl := Queue.submit_eq_error hs
    exact Or.inr rfl

/-- What the queue takes from a flush is the flush's job, under the next number. -/
theorem flush_of_alive {r : Relay} (halive : r.queue.alive = true) : r.flush.1 = { r with
    station := { r.station with folders := r.station.folders.afterScan }
    pending := .empty
    queue := { r.queue with
      jobs := r.queue.jobs ++ [r.flushJob]
      waiting := r.queue.waiting ++ [(r.queue.jobs.length, r.flushJob)] } } := by
  unfold flush
  dsimp only
  rw [Queue.submit_of_alive halive]

/-- Without a dispatcher the folders of a flush are judged at once. -/
theorem flush_of_closed {r : Relay} (hclosed : r.queue.alive = false) : r.flush.1 = { r with
    station := Station.finish { r.station with folders := r.station.folders.afterScan }
      r.station.folders.eligible
    pending := .empty } := by
  unfold flush
  dsimp only
  rw [Queue.submit_of_closed hclosed]
  rfl

/-- The recorder makes an entry of the folder that is being recorded into. Without a session, or
where the disk refuses the entry, nothing happens. -/
theorem record_cases (r : Relay) (name : String) (node : Disk.Node) :
    r.record name node = r ∨ ∃ folder disk, r.station.folders.active = some folder ∧
      r.station.disk.make (folder.child name) node = .ok disk ∧
      r.record name node = { r with station := { r.station with disk } } := by
  unfold record
  split
  · exact Or.inl rfl
  · next folder ha =>
    split
    · next disk hm => exact Or.inr ⟨folder, disk, ha, hm, rfl⟩
    · exact Or.inl rfl

/-- A waiting job gets a worker, if there is one and a permit for it. -/
theorem dispatch_cases (r : Relay) :
    r.dispatch = r ∨ ∃ queue, r.queue.dispatch = some queue ∧ r.dispatch = { r with queue } := by
  unfold dispatch
  split
  · next queue hd => exact Or.inr ⟨queue, hd, rfl⟩
  · exact Or.inl rfl

/-- A worker that runs makes a step, as `Worker.Advances` tells; a number that nobody has, and a
worker that waits for an answer, make none. -/
theorem advance_cases (r : Relay) (id : JobId) :
    r.advance id = r ∨ ∃ w s' w', (id, w) ∈ r.queue.running ∧
      Worker.Advances r.fetches.answer? r.station w s' w' ∧
      r.advance id = { r with station := s', queue := r.queue.update id w' } := by
  unfold advance
  split
  · exact Or.inl rfl
  next w hw =>
  split
  · next s' w' ha =>
    exact Or.inr ⟨w, s', w', Queue.mem_of_worker? hw, Worker.advances_of_advance ha, rfl⟩
  · exact Or.inl rfl

/-- An exchange of a worker that runs comes to its end: the worker takes the answer in, and the
exchange is noted with its file. An answer that no worker waits for changes nothing. -/
theorem answerWorker_cases (r : Relay) (id : JobId) (answer : Answer) :
    r.answerWorker id answer = r ∨ ∃ w s' w' request file, (id, w) ∈ r.queue.running ∧
      w.stage.request? = some request ∧ w.stage.file? = some file ∧
      Worker.Receives r.station w answer s' w' ∧
      r.answerWorker id answer = { r with
        station := s'
        queue := r.queue.update id w'
        exchanges := r.exchanges ++ [⟨file, request, answer⟩] } := by
  unfold answerWorker
  split
  · exact Or.inl rfl
  next w hw =>
  split
  · next request file hreq hfile =>
    have hrec := Worker.receives_receive r.station answer (by rw [hreq]; rfl : _ = true)
    exact Or.inr ⟨w, _, _, request, file, Queue.mem_of_worker? hw, hreq, hfile, hrec, rfl⟩
  · exact Or.inl rfl

/-! ## Moves -/

/-- What has to be kept for a move `m` of the relay `r` to keep `P`.  The detector's steps may
come in the middle of a look, so they are asked of every relay; the other moves are made by `r`
itself. -/
structure Upholds (P : Relay → Prop) (r : Relay) (m : Move) : Prop where
  quiet : ∀ {r r' : Relay}, Quiet r r' → P r → P r'
  start : ∀ {r : Relay}, P r → P r.startSession
  stop : ∀ {r : Relay}, P r → P r.endSession
  flush : ∀ {r : Relay}, P r → P r.flush.1
  record : ∀ {name : String} {node : Disk.Node}, m = .record name node → P r →
    P (r.record name node)
  dispatch : m = .dispatch → P r → P r.dispatch
  advance : ∀ {id : JobId}, m = .advance id → P r → P (r.advance id)
  answer : ∀ {id : JobId} {answer : Answer}, m = .answer id answer → P r →
    P (r.answerWorker id answer)
  close : m = .closeQueue → P r → P r.closeQueue

variable {P : Relay → Prop} {r : Relay} {m : Move}

/-- Comparing with what was seen before is a start, a stop, or nothing. -/
theorem Upholds.toggle (h : Upholds P r m) {r' : Relay} (was : Bool) (hp : P r') :
    P (r'.toggleIfEdge was) := by
  unfold toggleIfEdge
  split
  · exact h.start hp
  · exact h.stop hp
  · exact hp

/-- A flush that asks first is a quiet change and a flush, or nothing. -/
theorem Upholds.flushIfStopped (h : Upholds P r m) {r' : Relay} (hp : P r') :
    P r'.flushIfStopped.1 := by
  unfold Relay.flushIfStopped
  split
  · exact h.flush (h.quiet (quiet_takeStopped r') hp)
  · exact hp

/-- A move keeps what its parts keep. A whole look of the detector is a sweep, a comparison and a
flush that asks first, each kept by the fields above. -/
theorem move_keeps (h : Upholds P r m) (hp : P r) : P (r.move m) := by
  cases m with
  | setName user name => exact h.quiet (quiet_setName r user name) hp
  | speech user now => exact h.quiet (quiet_reportSpeech r user now) hp
  | sweep now => exact h.quiet (quiet_sweep r now) hp
  | toggle was => exact h.toggle was hp
  | notify => exact h.quiet (quiet_notify r) hp
  | flush => exact h.flush hp
  | flushIfStopped => exact h.flushIfStopped hp
  -- three moves in a row, made by three relays, which is why these fields are asked of every relay
  | poll was now => exact h.flushIfStopped (h.toggle was (h.quiet (quiet_sweep r now) hp))
  | record name node => exact h.record rfl hp
  | fetch => exact h.quiet (quiet_promote r) hp
  | tick id answer => exact h.quiet (quiet_settleFetch r id answer) hp
  | dispatch => exact h.dispatch rfl hp
  | advance id => exact h.advance rfl hp
  | answer id answer => exact h.answer rfl hp
  | closeQueue => exact h.close rfl hp

/-! ## Runs -/

@[simp] theorem run_nil (r : Relay) : r.run [] = r := rfl

@[simp] theorem run_cons (r : Relay) (m : Move) (moves : List Move) :
    r.run (m :: moves) = (r.move m).run moves := rfl

/-- A run can be cut in two wherever one likes, which is how a move in the middle of a run is got
hold of. -/
theorem run_append (r : Relay) (moves later : List Move) :
    r.run (moves ++ later) = (r.run moves).run later := List.foldl_append ..

/-- A run keeps what each of its moves keeps. The induction is over the moves, with the relay
left open. -/
theorem run_keeps {moves : List Move} (h : ∀ m ∈ moves, ∀ r, Upholds P r m) (hp : P r) :
    P (r.run moves) := by
  induction moves generalizing r with
  | nil => exact hp
  | cons m later ih =>
    exact ih (fun m' hm => h m' (List.mem_cons_of_mem _ hm))
      (move_keeps (h m List.mem_cons_self r) hp)

/-! ## Counting the sessions -/

/-- A start counts. -/
theorem starts_tell_start (r : Relay) (folder : Path) :
    (r.tell (.start folder)).starts = r.starts + 1 := by
  simp [starts, tell, Toggle.folder?]

/-- A session that is started is one more, also where its number has gone back to zero. -/
theorem starts_startSession (r : Relay) : r.startSession.starts = r.starts + 1 := by
  unfold startSession
  exact starts_tell_start _ _

/-- A stop does not count. -/
theorem starts_endSession (r : Relay) : r.endSession.starts = r.starts := by
  simp [starts, endSession, tell, Toggle.folder?]

/-- A flush tells the recorder nothing, and so do the next four. -/
theorem toggles_flush (r : Relay) : r.flush.1.toggles = r.toggles := by
  rcases flush_cases r with ⟨queue, id, -, he⟩ | he <;> rw [he]

theorem toggles_record (r : Relay) (name : String) (node : Disk.Node) :
    (r.record name node).toggles = r.toggles := by
  rcases record_cases r name node with he | ⟨folder, disk, -, -, he⟩ <;> rw [he]

theorem toggles_dispatch (r : Relay) : r.dispatch.toggles = r.toggles := by
  rcases dispatch_cases r with he | ⟨queue, -, he⟩ <;> rw [he]

theorem toggles_advance (r : Relay) (id : JobId) : (r.advance id).toggles = r.toggles := by
  rcases advance_cases r id with he | ⟨w, s', w', -, -, he⟩ <;> rw [he]

theorem toggles_answerWorker (r : Relay) (id : JobId) (answer : Answer) :
    (r.answerWorker id answer).toggles = r.toggles := by
  rcases answerWorker_cases r id answer with he | ⟨w, s', w', request, file, -, -, -, -, he⟩ <;>
    rw [he]

/-! ## What was said -/

/-- Only an answer to a worker adds an exchange; a flush does not, and neither do the next three. -/
theorem exchanges_flush (r : Relay) : r.flush.1.exchanges = r.exchanges := by
  rcases flush_cases r with ⟨queue, id, -, he⟩ | he <;> rw [he]

theorem exchanges_record (r : Relay) (name : String) (node : Disk.Node) :
    (r.record name node).exchanges = r.exchanges := by
  rcases record_cases r name node with he | ⟨folder, disk, -, -, he⟩ <;> rw [he]

theorem exchanges_dispatch (r : Relay) : r.dispatch.exchanges = r.exchanges := by
  rcases dispatch_cases r with he | ⟨queue, -, he⟩ <;> rw [he]

theorem exchanges_advance (r : Relay) (id : JobId) : (r.advance id).exchanges = r.exchanges := by
  rcases advance_cases r id with he | ⟨w, s', w', -, -, he⟩ <;> rw [he]

/-- What was said is never taken back: an answer adds one exchange at the end, or none. -/
theorem exchanges_answerWorker (r : Relay) (id : JobId) (answer : Answer) :
    r.exchanges <+: (r.answerWorker id answer).exchanges := by
  rcases answerWorker_cases r id answer with he | ⟨w, s', w', request, file, -, -, -, -, he⟩
  · exact he.symm ▸ List.prefix_refl _
  · exact he.symm ▸ List.prefix_append _ _

/-- A move keeps the exchanges and may add to them. -/
theorem exchanges_move (r : Relay) (m : Move) : r.exchanges <+: (r.move m).exchanges := by
  have hsame : ∀ {r' r'' : Relay}, r''.exchanges = r'.exchanges → r.exchanges <+: r'.exchanges →
      r.exchanges <+: r''.exchanges := fun he hp => he ▸ hp
  exact move_keeps (P := fun r' => r.exchanges <+: r'.exchanges)
    { quiet := fun hq => hsame hq.exchanges
      start := hsame rfl
      stop := hsame rfl
      flush := hsame (exchanges_flush _)
      record := fun _ => hsame (exchanges_record _ _ _)
      dispatch := fun _ => hsame (exchanges_dispatch r)
      advance := fun _ => hsame (exchanges_advance r _)
      answer := fun _ hp => hp.trans (exchanges_answerWorker r _ _)
      close := fun _ => hsame rfl } (List.prefix_refl _)

/-- What was said at some moment of a run is said in the same words at its end. -/
theorem exchanges_run (r : Relay) (moves : List Move) :
    r.exchanges <+: (r.run moves).exchanges := by
  induction moves generalizing r with
  | nil => exact List.prefix_refl _
  | cons m later ih => exact (exchanges_move r m).trans (ih (r.move m))

/-- A move starts sessions or leaves their number alone. -/
theorem starts_le_move (r : Relay) (m : Move) : r.starts ≤ (r.move m).starts := by
  refine move_keeps (P := fun r' => r.starts ≤ r'.starts) ⟨?_, ?_, ?_, ?_, ?_, ?_, ?_, ?_, ?_⟩
    (Nat.le_refl _)
  · intro _ _ hq hle
    rwa [starts_eq hq.toggles]
  · intro r' hle
    rw [starts_startSession]
    omega
  · intro r' hle
    rwa [starts_endSession]
  · intro r' hle
    rwa [starts_eq (toggles_flush r')]
  · intro name node _ _
    exact Nat.le_of_eq (starts_eq (toggles_record r name node)).symm
  · intro _ _
    exact Nat.le_of_eq (starts_eq (toggles_dispatch r)).symm
  · intro id _ _
    exact Nat.le_of_eq (starts_eq (toggles_advance r id)).symm
  · intro id answer _ _
    exact Nat.le_of_eq (starts_eq (toggles_answerWorker r id answer)).symm
  · intro _ hle
    exact hle

/-- Comparing starts one session at most. -/
theorem starts_toggleIfEdge_le (r : Relay) (was : Bool) :
    (r.toggleIfEdge was).starts ≤ r.starts + 1 := by
  unfold toggleIfEdge
  split
  · exact Nat.le_of_eq (starts_startSession r)
  · rw [starts_endSession]
    exact Nat.le_succ _
  · exact Nat.le_succ _

/-- A flush starts none. -/
theorem starts_flushIfStopped (r : Relay) : r.flushIfStopped.1.starts = r.starts := by
  unfold Relay.flushIfStopped
  split
  · exact starts_eq (toggles_flush r.takeStopped)
  · rfl

/-- A move starts one session at most. This bound is what keeps the numbers of sessions in 64
bits on every run that is not longer than that. -/
theorem starts_move_le (r : Relay) (m : Move) : (r.move m).starts ≤ r.starts + 1 := by
  have hsame : ∀ {r' : Relay}, r'.starts = r.starts → r'.starts ≤ r.starts + 1 :=
    fun h => h ▸ Nat.le_succ _
  cases m with
  | setName user name => exact hsame (starts_eq (quiet_setName r user name).toggles)
  | speech user now => exact hsame (starts_eq (quiet_reportSpeech r user now).toggles)
  | sweep now => exact hsame (starts_eq (quiet_sweep r now).toggles)
  | toggle was => exact starts_toggleIfEdge_le r was
  | notify => exact hsame (starts_eq (quiet_notify r).toggles)
  | flush => exact hsame (starts_eq (toggles_flush r))
  | flushIfStopped => exact hsame (starts_flushIfStopped r)
  | poll was now =>
    -- of the three moves of a look only the middle one may start a session
    show ((r.sweep now).toggleIfEdge was).flushIfStopped.1.starts ≤ r.starts + 1
    rw [starts_flushIfStopped, ← starts_eq (quiet_sweep r now).toggles]
    exact starts_toggleIfEdge_le _ was
  | record name node => exact hsame (starts_eq (toggles_record r name node))
  | fetch => exact hsame (starts_eq (quiet_promote r).toggles)
  | tick id answer => exact hsame (starts_eq (quiet_settleFetch r id answer).toggles)
  | dispatch => exact hsame (starts_eq (toggles_dispatch r))
  | advance id => exact hsame (starts_eq (toggles_advance r id))
  | answer id answer => exact hsame (starts_eq (toggles_answerWorker r id answer))
  | closeQueue => exact hsame rfl

/-- A run has no more sessions than moves. -/
theorem starts_run_le (r : Relay) (moves : List Move) :
    (r.run moves).starts ≤ r.starts + moves.length := by
  induction moves generalizing r with
  | nil => exact Nat.le_refl _
  | cons m later ih =>
    have hfirst := starts_move_le r m
    have hlater := ih (r.move m)
    rw [run_cons, List.length_cons]
    omega

/-- Sessions are never taken back. -/
theorem starts_le_run (r : Relay) (moves : List Move) : r.starts ≤ (r.run moves).starts := by
  induction moves generalizing r with
  | nil => exact Nat.le_refl _
  | cons m later ih => exact Nat.le_trans (starts_le_move r m) (ih (r.move m))

/-! ## A sample -/

/-- A relay that records below `rec`, on a blank disk. -/
def sample : Relay :=
  startOn .blank ⟨⟨["rec"]⟩, 100, 500, 4, 2⟩ ⟨"localhost", 8080, "radio"⟩ (.folderOnly true)

/-- A user speaks; what was recorded is flushed and put into the chat. The run goes through a
whole session: speech, start, a file, silence, stop with its report, flush, and a worker to its
end, with the tick that was fetched meanwhile. It is the run at which most witnesses below are
taken. -/
def sampleMoves : List Move :=
  [.speech 1 0, .toggle false, .record "1-a.wav" (.file [7]), .sweep 1000, .toggle true,
    .flushIfStopped, .dispatch, .fetch, .tick 0 (.body "\x7b\"tickId\":3,\"elapsed\":4\x7d"),
    .advance 0, .advance 0, .advance 0, .answer 0 (.body "\x7b\"fileId\":\"x\"\x7d"),
    .answer 0 (.body ""), .advance 0, .answer 0 (.body ""), .advance 0, .advance 0]

end Relay

end PushToTalk
