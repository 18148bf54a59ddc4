import PushToTalk.Upload.Pass

/-
  What a worker can do, case by case.

  A worker is a program with a state: it takes up one file after the other, makes its exchanges with
  the backend, and reports back in the end.  The two functions that move it, `advance` and
  `receive`, look at the stage of the worker, at what has been answered and at what is on the disk,
  so that a proof that opened them would go through all of this each time.  Here they are opened
  once.

  1. **Being done with a file** — `handled` changes the report and the stage, and may add a folder;
     the lemmas for the simplifier say what it leaves alone.

  2. **Beginning a file** — the three ways: no user in its name, everything known, or a tick to be
     waited for (`Worker.Begins`).

  3. **Steps of its own** — `Worker.Advances` lists the steps that a worker makes without an
     exchange.

  4. **Ends of an exchange** — `Worker.Receives` lists what an answer, a failure or a death makes of
     the worker that waits for it.

  What a worker does is read off these lists, by cases with the names of the constructors.  The two
  functions are opened elsewhere only to say when a worker makes no step at all, and what death
  does.  When a stage is added to the program, a constructor is added here, and the proofs say where
  it is missing.

  Main statements: `advances_of_advance` and `receives_receive`.
-/

namespace PushToTalk.Upload

/-! ## Being done with a file -/

/-- Adding the folder of a file leaves the report as it is. -/
@[simp] theorem Worker.addFolder_report (w : Worker) (file : Path) :
    (w.addFolder file).report = w.report := by
  unfold Worker.addFolder
  split
  · split <;> rfl
  · rfl

/-- Adding the folder of a file leaves what is known of the users as it is. -/
@[simp] theorem Worker.addFolder_correlations (w : Worker) (file : Path) :
    (w.addFolder file).correlations = w.correlations := by
  unfold Worker.addFolder
  split
  · split <;> rfl
  · rfl

/-- A worker that is done with a file has the report that it was given. -/
@[simp] theorem Worker.handled_report (w : Worker) (file : Path) (report : Report) :
    (w.handled file report).report = report := by simp [Worker.handled]

/-- A worker that is done with a file forgets nothing about the users. -/
@[simp] theorem Worker.handled_correlations (w : Worker) (file : Path) (report : Report) :
    (w.handled file report).correlations = w.correlations := by simp [Worker.handled]

/-! ## Beginning a file -/

/-- The ways in which a worker begins a file. -/
inductive Worker.Begins (s : Station) (w : Worker) (file : Path) : Worker → Prop
  /-- The name of the file holds no user id. -/
  | skip {why : Misread} (hu : UserId.ofPath file = .error why) :
      Begins s w file
        (w.handled file { w.report with skipped := w.report.skipped ++ [file] })
  /-- Name and tick are known at once. -/
  | read {user : UserId} {name : String} {tick : TickData} (hu : UserId.ofPath file = .ok user)
      (hn : name = ((w.correlations.get? user).map Correlation.name).getD (s.nameOf user))
      (ht : s.cache.get? file = some tick ∨
        s.cache.get? file = none ∧
          ((∃ n, w.correlations.get? user = some (.resolved n tick)) ∨
            w.correlations.get? user = none ∧ tick = .unknown)) :
      Begins s w file { w with stage := .reading ⟨file, name, tick⟩ }
  /-- The tick was requested and is awaited. -/
  | await {user : UserId} {request : PendingTick} (hu : UserId.ofPath file = .ok user)
      (hc : s.cache.get? file = none)
      (hp : w.correlations.get? user = some (.pending request)) :
      Begins s w file { w with stage := .awaiting file user request }

/-- Whatever the file is called and whatever is known of its user, it is begun in one of these
ways. -/
theorem Worker.begins_begin (s : Station) (w : Worker) (file : Path) :
    Worker.Begins s w file (Worker.begin s w file) := by
  unfold Worker.begin
  split
  · next why hu => exact .skip hu
  · next user hu =>
    dsimp only
    split
    · -- a tick from an earlier attempt comes before all others
      next tick hc => exact .read hu rfl (Or.inl hc)
    · next hc =>
      split
      · next n tick hk => exact .read hu rfl (Or.inr ⟨hc, Or.inl ⟨n, hk⟩⟩)
      · next request hk => exact .await hu hc hk
      · next hk => exact .read hu rfl (Or.inr ⟨hc, Or.inr ⟨hk, rfl⟩⟩)

/-! ## Steps of its own -/

/-- The steps that a worker makes by itself. -/
inductive Worker.Advances (answer? : FetchId → Option Answer) (s : Station) (w : Worker) :
    Station → Worker → Prop
  /-- The next file is begun. -/
  | begin {file : Path} {later : List Path} {w' : Worker} (hs : w.stage = .idle)
      (ht : w.todo = file :: later) (hb : Worker.Begins s { w with todo := later } file w') :
      Advances answer? s w s w'
  /-- No file is left, and the folders are reported back. -/
  | finish (hs : w.stage = .idle) (ht : w.todo = []) :
      Advances answer? s w (s.finish w.folders)
        { w with stage := .ended, report := { w.report with folders := w.folders } }
  /-- The awaited tick has come. -/
  | resolve {file : Path} {user : UserId} {request : PendingTick} {answer : Answer}
      (hs : w.stage = .awaiting file user request) (ha : answer? request.fetch = some answer) :
      Advances answer? s w s (w.resolve file user request answer)
  /-- The file is read. -/
  | read {d : Delivery} {chunks : List Bytes} (hs : w.stage = .reading d)
      (hr : Chunk.read s.disk d.file = .ok chunks) :
      Advances answer? s w s { w with stage := .creating d chunks }
  /-- The file cannot be read. -/
  | unread {d : Delivery} {why : Disk.Trouble} (hs : w.stage = .reading d)
      (hr : Chunk.read s.disk d.file = .error why) :
      Advances answer? s w (Worker.fail s w d).1 (Worker.fail s w d).2
  /-- The topic is looked up. -/
  | close {d : Delivery} {fileId : String} (hs : w.stage = .closing d fileId) :
      Advances answer? s w s { w with stage := .finalizing d fileId s.settings.topic }
  /-- The delivered file is deleted. -/
  | clear {file : Path} {verdict : Verdict} (hs : w.stage = .clearing file verdict) :
      Advances answer? s w (s.delete file) (w.handled file (w.cleared file verdict))

/-- Whatever a worker does by itself is one of the listed steps. The cases are those of its
stage. -/
theorem Worker.advances_of_advance {answer? : FetchId → Option Answer} {s s' : Station}
    {w w' : Worker} (h : Worker.advance answer? s w = some (s', w')) :
    Worker.Advances answer? s w s' w' := by
  unfold Worker.advance at h
  split at h
  · next hs =>
    split at h
    · next file later ht =>
      cases h
      exact .begin hs ht (begins_begin s _ file)
    · next ht =>
      cases h
      exact .finish hs ht
  · next hs =>
    split at h
    · next ha =>
      cases h
      exact .resolve hs ha
    · cases h
  · next d hs =>
    split at h
    · next hr =>
      cases h
      exact .read hs hr
    · next hr =>
      obtain ⟨rfl, rfl⟩ : (Worker.fail s w d).1 = s' ∧ (Worker.fail s w d).2 = w' := by
        rw [Option.some.inj h]
        exact ⟨rfl, rfl⟩
      exact .unread hs hr
  · next hs =>
    cases h
    exact .close hs
  · next hs =>
    cases h
    exact .clear hs
  -- in all other stages a worker waits for an answer, or is over
  all_goals cases h

/-- A worker ends only when no file is left. -/
theorem Worker.Advances.of_ended {answer? : FetchId → Option Answer} {s s' : Station}
    {w w' : Worker}
    (h : Worker.Advances answer? s w s' w') (he : w'.stage = .ended) :
    w.stage = .idle ∧ w.todo = [] ∧ s' = s.finish w.folders ∧
      w' = { w with stage := .ended, report := { w.report with folders := w.folders } } := by
  cases h with
  | finish hs ht => exact ⟨hs, ht, rfl, rfl⟩
  -- all other steps lead to a stage that is written out
  | begin hs ht hb => cases hb <;> simp at he
  | resolve | read | unread | close | clear => simp [Worker.resolve] at he

/-! ## Ends of an exchange -/

/-- The ways in which an exchange ends. -/
inductive Worker.Receives (s : Station) (w : Worker) : Answer → Station → Worker → Prop
  /-- The new file has an id. -/
  | created {d : Delivery} {chunks : List Bytes} {text fileId : String}
      (hs : w.stage = .creating d chunks) (hp : parseCreated text = .ok fileId) :
      Receives s w (.body text) s { w with stage := sendFrom d fileId 0 chunks }
  /-- The answer to a creation names no file. -/
  | unnamed {d : Delivery} {chunks : List Bytes} {text : String} {why : Misread}
      (hs : w.stage = .creating d chunks) (hp : parseCreated text = .error why) :
      Receives s w (.body text) (Worker.fail s w d).1 (Worker.fail s w d).2
  /-- A chunk is taken. -/
  | sent {d : Delivery} {fileId text : String} {index : Nat} {chunk : Bytes}
      {later : List Bytes} (hs : w.stage = .sending d fileId index chunk later) :
      Receives s w (.body text) s { w with stage := sendFrom d fileId (index + 1) later }
  /-- The backend gives its verdict. -/
  | verdict {d : Delivery} {fileId topic text : String}
      (hs : w.stage = .finalizing d fileId topic) :
      Receives s w (.body text)
        (Worker.deliver s w d (if Text.allBlank text then .accepted else .rejected)).1
        (Worker.deliver s w d (if Text.allBlank text then .accepted else .rejected)).2
  /-- The exchange fails. -/
  | broken {d : Delivery} {f : Fault}
      (hs : (∃ chunks, w.stage = .creating d chunks) ∨
        (∃ fileId index chunk later, w.stage = .sending d fileId index chunk later) ∨
        ∃ fileId topic, w.stage = .finalizing d fileId topic) :
      Receives s w (.fault f) (Worker.fail s w d).1 (Worker.fail s w d).2
  /-- The worker dies. -/
  | died (hs : w.stage.request?.isSome = true) :
      Receives s w .death s { w with stage := .dead }

/-- However an exchange of a worker ends, it is one of the listed ways. The cases are those of
its stage, and in each of them those of the answer. -/
theorem Worker.receives_receive (s : Station) {w : Worker} (answer : Answer)
    (h : w.stage.request?.isSome = true) :
    Worker.Receives s w answer (Worker.receive s w answer).1 (Worker.receive s w answer).2 := by
  cases hs : w.stage with
  | creating d chunks =>
    cases answer with
    | body text =>
      cases hp : parseCreated text with
      | ok fileId =>
        simp only [Worker.receive, hs, hp]
        exact .created hs hp
      | error why =>
        simp only [Worker.receive, hs, hp]
        exact .unnamed hs hp
    | fault f =>
      simp only [Worker.receive, hs]
      exact .broken (Or.inl ⟨chunks, hs⟩)
    | death =>
      simp only [Worker.receive, hs]
      exact .died h
  | sending d fileId index chunk later =>
    cases answer with
    | body text =>
      simp only [Worker.receive, hs]
      exact .sent hs
    | fault f =>
      simp only [Worker.receive, hs]
      exact .broken (Or.inr (Or.inl ⟨fileId, index, chunk, later, hs⟩))
    | death =>
      simp only [Worker.receive, hs]
      exact .died h
  | finalizing d fileId topic =>
    cases answer with
    | body text =>
      simp only [Worker.receive, hs]
      exact .verdict hs
    | fault f =>
      simp only [Worker.receive, hs]
      exact .broken (Or.inr (Or.inr ⟨fileId, topic, hs⟩))
    | death =>
      simp only [Worker.receive, hs]
      exact .died h
  -- no other stage has an exchange
  | _ => simp [hs, Stage.request?] at h

end PushToTalk.Upload
