import PushToTalk.Upload.Worker

/-
  A whole pass: a worker that moves until it cannot move any more.

  The backend is any function from a state of its own, the station and the request to an answer;
  it may also refuse to answer for now, and then the pass stops there.  A pass comes to an end
  because every step takes the worker forward: `measure` goes down.

  Main statements: `advance_forward` and `receive_forward`.
-/

namespace PushToTalk.Upload

/-- A backend with states `τ`: what it does with a request, or nothing while it holds it back.
It may touch the disk. -/
abbrev Backend (τ : Type) := τ → Station → Request → Option (τ × Station × Answer)

/-- An exchange with the backend, and the file that it was made for. -/
structure Exchange where
  file : Path
  request : Request
  answer : Answer
  deriving Repr

/-! ## Forward -/

/-- How far a stage is from the end of its file. -/
def Stage.distance : Stage → Nat
  | .awaiting .. => 8
  | .reading _ => 7
  | .creating .. => 6
  | .sending .. => 5
  | .closing .. => 4
  | .finalizing .. => 3
  | .clearing .. => 2
  | .idle => 1
  | .ended | .dead => 0

/-- How many chunks follow the one being sent. -/
def Stage.chunksLeft : Stage → Nat
  | .sending _ _ _ _ later => later.length
  | _ => 0

/-- The files to come, the distance to the end of the present one, and the chunks left. -/
def Worker.measure (w : Worker) : Nat × Nat × Nat :=
  (w.todo.length, w.stage.distance, w.stage.chunksLeft)

/-- The order in which the measure goes down. -/
abbrev Worker.Before : Nat × Nat × Nat → Nat × Nat × Nat → Prop :=
  Prod.Lex (· < ·) (Prod.Lex (· < ·) (· < ·))

/-- A worker gets on when it has fewer files to go. -/
theorem Worker.before_todo {w v : Worker} (h : w.todo.length < v.todo.length) :
    Before w.measure v.measure := Prod.Lex.left _ _ h

/-- A worker gets on when it comes nearer to the end of its file. -/
theorem Worker.before_stage {w v : Worker} (h : w.todo = v.todo)
    (d : w.stage.distance < v.stage.distance) : Before w.measure v.measure := by
  unfold Worker.measure
  rw [h]
  exact Prod.Lex.right _ (Prod.Lex.left _ _ d)

/-- A worker gets on when it has fewer chunks to send, at the same stage. -/
theorem Worker.before_chunks {w v : Worker} (h : w.todo = v.todo)
    (d : w.stage.distance = v.stage.distance) (c : w.stage.chunksLeft < v.stage.chunksLeft) :
    Before w.measure v.measure := by
  unfold Worker.measure
  rw [h, d]
  exact Prod.Lex.right _ (Prod.Lex.right _ c)

@[simp] theorem Worker.addFolder_todo (w : Worker) (file : Path) :
    (w.addFolder file).todo = w.todo := by
  unfold Worker.addFolder
  split
  · split <;> rfl
  · rfl

@[simp] theorem Worker.addFolder_stage (w : Worker) (file : Path) :
    (w.addFolder file).stage = w.stage := by
  unfold Worker.addFolder
  split
  · split <;> rfl
  · rfl

@[simp] theorem Worker.handled_todo (w : Worker) (file : Path) (r : Report) :
    (w.handled file r).todo = w.todo := by simp [Worker.handled]

@[simp] theorem Worker.handled_stage (w : Worker) (file : Path) (r : Report) :
    (w.handled file r).stage = .idle := by simp [Worker.handled]

@[simp] theorem Worker.fail_todo (s : Station) (w : Worker) (d : Delivery) :
    (Worker.fail s w d).2.todo = w.todo := by simp [Worker.fail]

@[simp] theorem Worker.fail_stage (s : Station) (w : Worker) (d : Delivery) :
    (Worker.fail s w d).2.stage = .idle := by simp [Worker.fail]

/-- Beginning a file leaves the files behind it as they are. -/
theorem Worker.begin_todo (s : Station) (w : Worker) (file : Path) :
    (Worker.begin s w file).todo = w.todo := by
  unfold Worker.begin
  split
  · simp
  · dsimp only
    split
    · rfl
    · split <;> rfl

/-- A step of the worker's own takes it forward. -/
theorem Worker.advance_forward {answer? : FetchId → Option Answer} {s s' : Station}
    {w w' : Worker} (h : Worker.advance answer? s w = some (s', w')) :
    Before w'.measure w.measure := by
  unfold Worker.advance at h
  split at h
  · next hs =>
    split at h
    · next file later ht =>
      obtain ⟨-, rfl⟩ := Prod.mk.inj (Option.some.inj h)
      apply before_todo
      rw [begin_todo, ht]
      simp
    · next ht =>
      obtain ⟨-, rfl⟩ := Prod.mk.inj (Option.some.inj h)
      exact before_stage rfl (by simp [hs, Stage.distance])
  · next hs =>
    split at h
    · obtain ⟨-, rfl⟩ := Prod.mk.inj (Option.some.inj h)
      exact before_stage rfl (by simp [hs, Stage.distance, resolve])
    · cases h
  · next d hs =>
    split at h
    · obtain ⟨-, rfl⟩ := Prod.mk.inj (Option.some.inj h)
      exact before_stage rfl (by simp [hs, Stage.distance])
    · have e := congrArg Prod.snd (Option.some.inj h)
      subst e
      exact before_stage (fail_todo s w d) (by simp [hs, Stage.distance])
  · next hs =>
    obtain ⟨-, rfl⟩ := Prod.mk.inj (Option.some.inj h)
    exact before_stage rfl (by simp [hs, Stage.distance])
  · next file verdict hs =>
    obtain ⟨-, rfl⟩ := Prod.mk.inj (Option.some.inj h)
    exact before_stage (handled_todo w file _) (by simp [hs, Stage.distance])
  all_goals cases h

theorem Worker.sendFrom_forward {w : Worker} {d : Delivery} {fileId : String} {index : Nat}
    {chunks : List Bytes} (far : 5 ≤ w.stage.distance)
    (near : w.stage.distance = 5 → chunks.length ≤ w.stage.chunksLeft) :
    Before ({ w with stage := sendFrom d fileId index chunks } : Worker).measure w.measure := by
  cases chunks with
  | nil => exact before_stage rfl (by show (4 : Nat) < _; omega)
  | cons chunk later =>
    rcases Nat.lt_or_eq_of_le far with h | h
    · exact before_stage rfl (by show (5 : Nat) < _; omega)
    · exact before_chunks rfl h (near h.symm)

/-- The end of an exchange takes the worker forward. -/
theorem Worker.receive_forward {s : Station} {w : Worker} {answer : Answer}
    (h : w.stage.request?.isSome = true) :
    Before (Worker.receive s w answer).2.measure w.measure := by
  cases hs : w.stage with
  | creating d chunks =>
    have far : 5 ≤ w.stage.distance := by simp [hs, Stage.distance]
    cases answer with
    | body text =>
      simp only [Worker.receive, hs]
      split
      · exact sendFrom_forward far (by rw [hs]; intro e; cases e)
      · exact before_stage (fail_todo s w d) (by simp [hs, Stage.distance])
    | fault f =>
      simp only [Worker.receive, hs]
      exact before_stage (fail_todo s w d) (by simp [hs, Stage.distance])
    | death =>
      simp only [Worker.receive, hs]
      exact before_stage rfl (by simp [hs, Stage.distance])
  | sending d fileId index chunk later =>
    have far : 5 ≤ w.stage.distance := by simp [hs, Stage.distance]
    cases answer with
    | body text =>
      simp only [Worker.receive, hs]
      exact sendFrom_forward far (by rw [hs]; intro _; exact Nat.le_refl _)
    | fault f =>
      simp only [Worker.receive, hs]
      exact before_stage (fail_todo s w d) (by simp [hs, Stage.distance])
    | death =>
      simp only [Worker.receive, hs]
      exact before_stage rfl (by simp [hs, Stage.distance])
  | finalizing d fileId topic =>
    cases answer with
    | body text =>
      simp only [Worker.receive, hs, Worker.deliver]
      exact before_stage rfl (by simp [hs, Stage.distance])
    | fault f =>
      simp only [Worker.receive, hs]
      exact before_stage (fail_todo s w d) (by simp [hs, Stage.distance])
    | death =>
      simp only [Worker.receive, hs]
      exact before_stage rfl (by simp [hs, Stage.distance])
  | _ => simp [hs, Stage.request?] at h

/-! ## Running -/

/-- A backend, a station and a worker, and the exchanges that were made so far. -/
structure Course (τ : Type) where
  backend : τ
  station : Station
  worker : Worker
  exchanges : List Exchange

/-- The end of an exchange, written down together with the file it was made for. -/
def Course.exchanged {τ : Type} (c : Course τ) (request : Request) (t : τ) (s : Station)
    (answer : Answer) : Course τ :=
  { backend := t
    station := (Worker.receive s c.worker answer).1
    worker := (Worker.receive s c.worker answer).2
    exchanges := c.exchanges ++
      (c.worker.stage.file?.map fun file => ⟨file, request, answer⟩).toList }

/-- Moves a worker until it has ended or died, or waits for a tick or a held exchange. -/
def Course.run {τ : Type} (backend : Backend τ) (answer? : FetchId → Option Answer)
    (c : Course τ) : Course τ :=
  match _h : Worker.advance answer? c.station c.worker with
  | some (s, w) => Course.run backend answer? { c with station := s, worker := w }
  | none =>
    match _hq : c.worker.stage.request? with
    | none => c
    | some request =>
      match backend c.backend c.station request with
      | none => c
      | some (t, s, answer) => Course.run backend answer? (c.exchanged request t s answer)
termination_by c.worker.measure
decreasing_by
  · exact Worker.advance_forward _h
  · exact Worker.receive_forward (by rw [_hq]; rfl)

/-- The report of a worker that has ended. -/
def Worker.report? (w : Worker) : Option Report :=
  match w.stage with
  | .ended => some w.report
  | _ => none

end PushToTalk.Upload
