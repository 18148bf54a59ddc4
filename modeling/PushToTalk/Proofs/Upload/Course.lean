import PushToTalk.Proofs.Upload.Protocol

/-
  A pass keeps to the protocol.

  The protocol tells a pass as a row of dealings with files; the worker is a program that goes from
  stage to stage.  `Stands` is what ties the two together between any two steps of a pass: the files
  that are done were handled one after the other, the report and the exchanges say just that, and
  what was said since is what the stage of the worker stands for (`Busy`).

  1. **Between two steps** — the invariant, stage by stage.

  2. **What a worker knows** — about the users, from the requests that it was given: a request is
     open, or it was answered and its tick is known (`Knows`).  So a tick that is looked up is the
     one that the protocol asks for (`Knows.tick_of`).

  3. **Steps of the worker's own** (`Stands.advance`) and **ends of an exchange** (`Stands.receive`)
     — each gets on with the first file or is done with it, in which case one dealing more is in the
     row (`stands_handled`).

  4. **Whole passes** — the invariant holds where the pass stops, and there it is at its end or
     halts (`Busy.halts`).  With every tick there and every answer given it comes to its end.

  Main statements: `Stands.advance`, `Stands.receive` and `Course.run_passes`.
-/

namespace PushToTalk.Upload

variable {τ : Type} {backend : Backend τ} {answer? : FetchId → Option Answer}
  {pending : PendingTicks} {t t' t₀ t₁ : τ} {s s' s₀ s₁ : Station} {w w' : Worker}
  {files rest : List Path} {xs : List Exchange}

/-! ## Between two steps -/

/-- What the worker knows about the users' speech comes from the requests that it was given. -/
def Knows (answer? : FetchId → Option Answer) (pending : PendingTicks)
    (correlations : Table UserId Correlation) : Prop :=
  ∀ user, match pending.get? user with
    | none => correlations.get? user = none
    | some request => correlations.get? user = some (.pending request) ∨
      ∃ answer, answer? request.fetch = some answer ∧
        correlations.get? user = some (.resolved request.name (TickData.ofAnswer answer))

/-- Where the worker stands with the files that are not done: it found backend and station as `t₁`
and `s₁`, and has said `xs` about the first of the files since. -/
def Busy (backend : Backend τ) (answer? : FetchId → Option Answer) (pending : PendingTicks)
    (t₁ : τ) (s₁ : Station) (rest : List Path) (xs : List Exchange) (t : τ) (s : Station)
    (w : Worker) : Prop :=
  match w.stage with
  | .idle => rest = w.todo ∧ xs = [] ∧ t = t₁ ∧ s = s₁
  | .awaiting file user request => rest = file :: w.todo ∧ xs = [] ∧ t = t₁ ∧ s = s₁ ∧
      UserId.ofPath file = .ok user ∧ s₁.cache.get? file = none ∧
      pending.get? user = some request
  | .reading d => rest = d.file :: w.todo ∧ xs = [] ∧ t = t₁ ∧ s = s₁ ∧
      d.Filed answer? pending s₁
  | .creating d chunks => rest = d.file :: w.todo ∧ xs = [] ∧ t = t₁ ∧ s = s₁ ∧
      d.Filed answer? pending s₁ ∧
      ∃ bytes, s₁.disk.read d.file = .ok bytes ∧ chunks = Chunk.ofFile bytes
  | .sending d fileId index chunk later => rest = d.file :: w.todo ∧
      d.Filed answer? pending s₁ ∧ Talks backend t₁ s₁ xs t s ∧
      ∃ bytes, s₁.disk.read d.file = .ok bytes ∧
        Opened d.file (Chunk.ofFile bytes) fileId index xs ∧
        (Chunk.ofFile bytes).drop index = chunk :: later
  | .closing d fileId => rest = d.file :: w.todo ∧
      d.Filed answer? pending s₁ ∧ Talks backend t₁ s₁ xs t s ∧
      ∃ bytes, s₁.disk.read d.file = .ok bytes ∧
        Opened d.file (Chunk.ofFile bytes) fileId (Chunk.ofFile bytes).length xs
  | .finalizing d fileId topic => rest = d.file :: w.todo ∧
      d.Filed answer? pending s₁ ∧ Talks backend t₁ s₁ xs t s ∧ topic = s.settings.topic ∧
      ∃ bytes, s₁.disk.read d.file = .ok bytes ∧
        Opened d.file (Chunk.ofFile bytes) fileId (Chunk.ofFile bytes).length xs
  | .clearing file verdict => rest = file :: w.todo ∧
      Handles backend answer? pending t₁ s₁
        ⟨file, xs, match verdict with | .accepted => .uploaded | .rejected => .rejected⟩ t
        (s.delete file)
  | .ended => rest = [] ∧ xs = []
  | .dead => ∃ file tick chunks, rest = file :: w.todo ∧
      Sends backend answer? pending t₁ s₁ file tick chunks xs t s ∧
      xs.getLast?.map Exchange.answer = some .death

/-- What holds between any two steps of a pass. -/
structure Stands (backend : Backend τ) (answer? : FetchId → Option Answer)
    (pending : PendingTicks) (files : List Path) (t₀ : τ) (s₀ : Station)
    (attempts : List Attempt) (rest : List Path) (xs : List Exchange) (c : Course τ) :
    Prop where
  files : files = attempts.map (·.file) ++ rest
  exchanges : c.exchanges = attempts.flatMap (·.exchanges) ++ xs
  report : ∀ fate, c.worker.report.of fate = faring fate attempts
  knows : Knows answer? pending c.worker.correlations
  passes : ∃ t₁ s₁, Passes backend answer? pending t₀ s₀ attempts t₁ s₁ ∧
    Busy backend answer? pending t₁ s₁ rest xs c.backend c.station c.worker

/-- Before the first step no file is done, and nothing was said. -/
theorem stands_start (t : τ) (s : Station) (files folders : List Path) :
    Stands backend answer? pending files t s [] files []
      ⟨t, s, Worker.start files folders pending, []⟩ where
  files := rfl
  exchanges := rfl
  report fate := by cases fate <;> rfl
  knows user := by
    show match pending.get? user with | none => _ | some request => _
    cases hp : pending.get? user with
    | none =>
      show (pending.map fun _ request => Correlation.pending request).get? user = none
      rw [Table.get?_map, hp]
      rfl
    | some request =>
      left
      show (pending.map fun _ request => Correlation.pending request).get? user = _
      rw [Table.get?_map, hp]
      rfl
  passes := ⟨t, s, .nil, rfl, rfl, rfl, rfl⟩

/-! ## What a worker knows -/

/-- The name that the worker uses for a user is the one of the pending request, or the one in the
directory of users. -/
theorem Knows.name {correlations : Table UserId Correlation}
    (h : Knows answer? pending correlations) (s : Station) (user : UserId) :
    ((correlations.get? user).map Correlation.name).getD (s.nameOf user) =
      filedUnder pending s user := by
  have hu := h user
  unfold filedUnder
  cases hp : pending.get? user with
  | none =>
    rw [hp] at hu
    rw [show correlations.get? user = none from hu]
    rfl
  | some request =>
    rw [hp] at hu
    rcases hu with hu | ⟨answer, -, hu⟩ <;> rw [hu] <;> rfl

/-- A request that is still open is one that the worker was given. -/
theorem Knows.pending_of {correlations : Table UserId Correlation}
    (h : Knows answer? pending correlations) {user : UserId} {request : PendingTick}
    (hc : correlations.get? user = some (.pending request)) :
    pending.get? user = some request := by
  have hu := h user
  cases hp : pending.get? user with
  | none =>
    rw [hp] at hu
    rw [show correlations.get? user = none from hu] at hc
    cases hc
  | some given =>
    rw [hp] at hu
    rcases hu with hu | ⟨answer, -, hu⟩ <;> rw [hu] at hc
    · cases hc
      rfl
    · cases hc

/-- A tick that the worker knows is the one that the request gave. -/
theorem Knows.tick_of {correlations : Table UserId Correlation}
    (h : Knows answer? pending correlations) {s : Station} {file : Path} {user : UserId}
    {tick : TickData} (ht : s.cache.get? file = some tick ∨ s.cache.get? file = none ∧
      ((∃ n, correlations.get? user = some (.resolved n tick)) ∨
        correlations.get? user = none ∧ tick = .unknown)) :
    tickFor answer? pending s file user = some tick := by
  unfold tickFor
  -- what is remembered of the file comes first, for the worker as for the protocol
  rcases ht with hc | ⟨hc, ht⟩
  · rw [hc]
  rw [hc]
  have hu := h user
  cases hp : pending.get? user with
  | none =>
    rw [hp] at hu
    rcases ht with ⟨n, hr⟩ | ⟨-, rfl⟩
    · rw [show correlations.get? user = none from hu] at hr
      cases hr
    · rfl
  | some request =>
    rw [hp] at hu
    rcases hu with hu | ⟨answer, ha, hu⟩
    · rcases ht with ⟨n, hr⟩ | ⟨hr, -⟩ <;> rw [hu] at hr <;> cases hr
    · rcases ht with ⟨n, hr⟩ | ⟨hr, -⟩ <;> rw [hu] at hr <;> cases hr
      simp [ha]

/-- Once the tick of a request has come the worker knows it. -/
theorem Knows.resolve {correlations : Table UserId Correlation}
    (h : Knows answer? pending correlations) {user : UserId} {request : PendingTick}
    {answer : Answer} (hp : pending.get? user = some request)
    (ha : answer? request.fetch = some answer) :
    Knows answer? pending
      (correlations.put user (.resolved request.name (TickData.ofAnswer answer))) := by
  intro user'
  rw [Table.get?_put]
  by_cases hu : user = user'
  · subst hu
    rw [hp]
    exact Or.inr ⟨answer, ha, by simp⟩
  · have hne : (user == user') = false := by simpa using hu
    rw [hne]
    exact h user'

/-! ## Steps of the worker's own -/

/-- A file is done. -/
theorem stands_handled {attempts : List Attempt} {file : Path} {fate : Fate}
    {exchanges : List Exchange} {report : Report}
    (hfiles : files = attempts.map (·.file) ++ file :: w.todo)
    (hx : exchanges = attempts.flatMap (·.exchanges) ++ xs)
    (hreport : ∀ f, w.report.of f = faring f attempts)
    (hnoted : ∀ f, report.of f = if fate = f then w.report.of f ++ [file] else w.report.of f)
    (hk : Knows answer? pending w.correlations)
    (hp : Passes backend answer? pending t₀ s₀ attempts t₁ s₁)
    (hh : Handles backend answer? pending t₁ s₁ ⟨file, xs, fate⟩ t' s') :
    Stands backend answer? pending files t₀ s₀ (attempts ++ [⟨file, xs, fate⟩]) w.todo []
      ⟨t', s', w.handled file report, exchanges⟩ where
  files := by simp [hfiles]
  exchanges := by simp [hx]
  report f := by
    rw [Worker.handled_report, hnoted, faring_snoc, hreport]
  knows := by
    rw [Worker.handled_correlations]
    exact hk
  passes := by
    refine ⟨t', s', .snoc hp hh, ?_⟩
    simp [Busy]

/-- A step of the worker's own keeps to the protocol. -/
theorem Stands.advance {attempts : List Attempt} {c : Course τ}
    (h : Stands backend answer? pending files t₀ s₀ attempts rest xs c)
    (ha : Worker.Advances answer? c.station c.worker s' w') :
    ∃ attempts rest xs, Stands backend answer? pending files t₀ s₀ attempts rest xs
      { c with station := s', worker := w' } := by
  -- each step of the worker's own either gets on with the first file or is done with it
  obtain ⟨hfiles, hx, hreport, hk, t₁, s₁, hp, hb⟩ := h
  cases ha with
  | @begin file later _ hs ht hbegins =>
    simp only [Busy, hs] at hb
    obtain ⟨rfl, rfl, rfl, rfl⟩ := hb
    rw [ht] at hfiles
    cases hbegins with
    | skip hu =>
      refine ⟨_, _, _, stands_handled (w := { c.worker with todo := later }) hfiles hx hreport
        ?_ hk hp (.skipped hu)⟩
      intro f
      cases f <;> rfl
    | @read user name tick hu hn htick =>
      refine ⟨attempts, _, [], ⟨hfiles, hx, hreport, hk, _, _, hp, ?_⟩⟩
      exact ⟨rfl, rfl, rfl, rfl, user, hu, hk.tick_of htick, hn.trans (hk.name _ _)⟩
    | await hu hc hpend =>
      exact ⟨attempts, _, [], ⟨hfiles, hx, hreport, hk, _, _, hp, rfl, rfl, rfl, rfl, hu, hc,
        hk.pending_of hpend⟩⟩
  | finish hs ht =>
    simp only [Busy, hs] at hb
    obtain ⟨rfl, rfl, -, -⟩ := hb
    refine ⟨attempts, _, [], ⟨hfiles, hx, fun f => ?_, hk, t₁, s₁, hp, ht, rfl⟩⟩
    rw [← hreport f]
    cases f <;> rfl
  | resolve hs hanswer =>
    simp only [Busy, hs] at hb
    obtain ⟨rfl, rfl, rfl, rfl, hu, hc, hpend⟩ := hb
    refine ⟨attempts, _, [], ⟨hfiles, hx, hreport, hk.resolve hpend hanswer, _, _, hp, ?_⟩⟩
    refine ⟨rfl, rfl, rfl, rfl, _, hu, ?_, ?_⟩
    · simp [tickFor, hc, hpend, hanswer]
    · simp [filedUnder, hpend]
  | read hs hread =>
    simp only [Busy, hs] at hb
    obtain ⟨rfl, rfl, rfl, rfl, hd⟩ := hb
    obtain ⟨bytes, hbytes, rfl⟩ := Chunk.read_eq_ok.1 hread
    exact ⟨attempts, _, [], ⟨hfiles, hx, hreport, hk, _, _, hp, rfl, rfl, rfl, rfl, hd, bytes,
      hbytes, rfl⟩⟩
  | unread hs hread =>
    simp only [Busy, hs] at hb
    obtain ⟨rfl, rfl, rfl, rfl, user, hu, htick, -⟩ := hb
    refine ⟨_, _, _, stands_handled hfiles hx hreport ?_ hk hp
      (.unread hu htick (Chunk.read_eq_error.1 hread))⟩
    intro f
    cases f <;> rfl
  | close hs =>
    simp only [Busy, hs] at hb
    obtain ⟨rfl, hd, htalks, bytes, hread, ho⟩ := hb
    exact ⟨attempts, _, xs, ⟨hfiles, hx, hreport, hk, _, _, hp, rfl, hd, htalks, rfl, bytes,
      hread, ho⟩⟩
  -- the deletion is the last step of the dealing, and the report notes the file
  | @clear file verdict hs =>
    simp only [Busy, hs] at hb
    obtain ⟨rfl, hh⟩ := hb
    refine ⟨_, _, _, stands_handled hfiles hx hreport ?_ hk hp hh⟩
    intro f
    cases verdict <;> cases f <;> rfl

/-! ## Ends of an exchange -/

/-- The file that the worker is in an exchange about. -/
def Stage.delivery? : Stage → Option Delivery
  | .creating d _ | .sending d _ _ _ _ | .finalizing d _ _ => some d
  | _ => none

/-- A worker in an exchange has a delivery in hand, of the file that it is at. -/
theorem Stage.delivery_of_request {stage : Stage} {request : Request}
    (hq : stage.request? = some request) :
    ∃ d, stage.delivery? = some d ∧ stage.file? = some d.file := by
  cases stage <;> first | exact ⟨_, rfl, rfl⟩ | cases hq

/-- A worker in an exchange sends its file, and goes on sending it whatever the answer is. -/
theorem Busy.asks {request : Request} {d : Delivery}
    (hb : Busy backend answer? pending t₁ s₁ rest xs t s w)
    (hq : w.stage.request? = some request) (hd : w.stage.delivery? = some d) :
    rest = d.file :: w.todo ∧ ∃ bytes, s₁.disk.read d.file = .ok bytes ∧
      Sends backend answer? pending t₁ s₁ d.file d.tick (Chunk.ofFile bytes) xs t s ∧
      fateOf (Chunk.ofFile bytes).length xs = none ∧
      ∀ t' s' answer, backend t s request = some (t', s', answer) →
        Sends backend answer? pending t₁ s₁ d.file d.tick (Chunk.ofFile bytes)
          (xs ++ [⟨d.file, request, answer⟩]) t' s' := by
  cases hs : w.stage with
  | creating d' chunks =>
    simp only [hs, Stage.delivery?, Option.some.injEq] at hd
    simp only [hs, Stage.request?, Option.some.injEq] at hq
    simp only [Busy, hs] at hb
    subst hd hq
    obtain ⟨hrest, rfl, rfl, rfl, hfiled, bytes, hread, rfl⟩ := hb
    refine ⟨hrest, _, hread, sends_nil hfiled hread, fateOf_nil _, fun t' s' answer hback => ?_⟩
    exact sends_next "" "" hfiled hread .nil hback transcript_create
      fun hl => absurd hl (by simp)
  | sending d' fileId index chunk later =>
    simp only [hs, Stage.delivery?, Option.some.injEq] at hd
    simp only [hs, Stage.request?, Option.some.injEq] at hq
    simp only [Busy, hs] at hb
    subst hd hq
    obtain ⟨hrest, hfiled, htalks, bytes, hread, ho, hdrop⟩ := hb
    refine ⟨hrest, _, hread, sends_opened hfiled hread ho htalks, fateOf_opened ho,
      fun t' s' answer hback => ?_⟩
    refine sends_next "" fileId hfiled hread htalks hback (ho.next (script_succ _ _ _ _ hdrop))
      fun hl => absurd hl ?_
    have hlt := lt_length_of_drop hdrop
    rw [ho.length]
    omega
  | finalizing d' fileId topic =>
    simp only [hs, Stage.delivery?, Option.some.injEq] at hd
    simp only [hs, Stage.request?, Option.some.injEq] at hq
    simp only [Busy, hs] at hb
    subst hd hq
    obtain ⟨hrest, hfiled, htalks, htopic, bytes, hread, ho⟩ := hb
    refine ⟨hrest, _, hread, sends_opened hfiled hread ho htalks, fateOf_opened ho,
      fun t' s' answer hback => ?_⟩
    -- this is the request that has the topic in it, the one in force now
    exact sends_next topic fileId hfiled hread htalks hback (ho.next script_last) fun _ => htopic
  | _ => simp [hs, Stage.request?] at hq

/-- The worker goes on with the chunks that are left. -/
theorem busy_sendFrom {d : Delivery} {fileId : String} {index : Nat} {bytes : Bytes}
    {chunks : List Bytes} (hfiled : d.Filed answer? pending s₁)
    (htalks : Talks backend t₁ s₁ xs t s) (hread : s₁.disk.read d.file = .ok bytes)
    (ho : Opened d.file (Chunk.ofFile bytes) fileId index xs)
    (hdrop : (Chunk.ofFile bytes).drop index = chunks) :
    Busy backend answer? pending t₁ s₁ (d.file :: w.todo) xs t s
      { w with stage := sendFrom d fileId index chunks } := by
  cases chunks with
  | nil =>
    have hle : (Chunk.ofFile bytes).length ≤ index := List.drop_eq_nil_iff.1 hdrop
    obtain rfl : index = (Chunk.ofFile bytes).length := Nat.le_antisymm ho.enough hle
    exact ⟨rfl, hfiled, htalks, bytes, hread, ho⟩
  | cons chunk later => exact ⟨rfl, hfiled, htalks, bytes, hread, ho, hdrop⟩

/-- The end of an exchange keeps to the protocol. -/
theorem Stands.receive {attempts : List Attempt} {c : Course τ} {request : Request}
    {answer : Answer} (h : Stands backend answer? pending files t₀ s₀ attempts rest xs c)
    (hq : c.worker.stage.request? = some request)
    (hback : backend c.backend c.station request = some (t, s, answer)) :
    ∃ attempts rest xs, Stands backend answer? pending files t₀ s₀ attempts rest xs
      (c.exchanged request t s answer) := by
  obtain ⟨d, hd, hfile⟩ := Stage.delivery_of_request hq
  have hrec := Worker.receives_receive s answer (w := c.worker) (by rw [hq]; rfl)
  -- what the course records is one exchange about the worker's file
  have hexch : c.exchanged request t s answer =
      ⟨t, (c.worker.receive s answer).1, (c.worker.receive s answer).2,
        c.exchanges ++ [⟨d.file, request, answer⟩]⟩ := by
    simp [Course.exchanged, hfile]
  rw [hexch]
  -- the outcome is a variable from here on, so that the cases can be those of the ends of an
  -- exchange
  generalize (c.worker.receive s answer).1 = s', (c.worker.receive s answer).2 = w' at hrec ⊢
  obtain ⟨hfiles, hx, hreport, hk, t₁, s₁, hp, hb⟩ := h
  obtain ⟨rfl, bytes, hread, -, -, hnext⟩ := hb.asks hq hd
  have hsent := hnext t s answer hback
  have hx' : c.exchanges ++ [⟨d.file, request, answer⟩] =
      attempts.flatMap (·.exchanges) ++ (xs ++ [⟨d.file, request, answer⟩]) := by
    rw [hx, List.append_assoc]
  cases hrec with
  | created hs hparse =>
    simp only [hs, Stage.delivery?, Option.some.injEq] at hd
    simp only [hs, Stage.request?, Option.some.injEq] at hq
    simp only [Busy, hs] at hb
    subst hd hq
    obtain ⟨-, rfl, rfl, rfl, hfiled, bytes, hread, rfl⟩ := hb
    exact ⟨attempts, _, _, ⟨hfiles, hx', hreport, hk, _, _, hp,
      busy_sendFrom hfiled hsent.talks hread (opened_create hparse) rfl⟩⟩
  | unnamed hs hparse =>
    simp only [hs, Stage.delivery?, Option.some.injEq] at hd
    simp only [Busy, hs] at hb
    subst hd
    obtain ⟨-, rfl, -, -, -⟩ := hb
    refine ⟨_, _, _, stands_handled hfiles hx' hreport ?_ hk hp
      (.sent hsent (fateOf_unnamed rfl hparse))⟩
    intro f
    cases f <;> rfl
  | sent hs =>
    simp only [hs, Stage.delivery?, Option.some.injEq] at hd
    simp only [hs, Stage.request?, Option.some.injEq] at hq
    simp only [Busy, hs] at hb
    subst hd hq
    obtain ⟨-, hfiled, htalks, bytes, hread, ho, hdrop⟩ := hb
    refine ⟨attempts, _, _, ⟨hfiles, hx', hreport, hk, _, _, hp,
      busy_sendFrom hfiled hsent.talks hread (ho.snoc hdrop _) ?_⟩⟩
    rw [← List.drop_drop, hdrop]
    rfl
  | @verdict d' fileId topic text hs =>
    simp only [hs, Stage.delivery?, Option.some.injEq] at hd
    simp only [Busy, hs] at hb
    subst hd
    obtain ⟨-, -, -, -, bytes', hread', ho⟩ := hb
    obtain rfl := Except.ok.inj (hread'.symm.trans hread)
    have hfate := fateOf_verdict (x := ⟨d'.file, request, .body text⟩) ho.length rfl
    refine ⟨attempts, _, _, ⟨hfiles, hx', hreport, hk, _, _, hp, rfl, ?_⟩⟩
    -- the worker says which way the verdict went, and the fate of the file says the same
    cases hblank : Text.allBlank text with
    | true =>
      rw [hblank] at hfate
      exact .sent hsent hfate
    | false =>
      rw [hblank] at hfate
      exact .sent hsent hfate
  | @broken d' f hs =>
    have hd' : c.worker.stage.delivery? = some d' := by
      rcases hs with ⟨_, hs⟩ | ⟨_, _, _, _, hs⟩ | ⟨_, _, hs⟩ <;> rw [hs] <;> rfl
    obtain rfl := Option.some.inj (hd.symm.trans hd')
    refine ⟨_, _, _, stands_handled hfiles hx' hreport ?_ hk hp (.sent hsent (fateOf_fault rfl))⟩
    intro f
    cases f <;> rfl
  | died hs =>
    refine ⟨attempts, _, _, ⟨hfiles, hx', hreport, hk, _, _, hp, d.file, d.tick, _, rfl, hsent, ?_⟩⟩
    simp

/-! ## Whole passes -/

/-- Why a worker makes no step of its own. -/
theorem advance_eq_none (h : Worker.advance answer? s w = none) :
    w.stage = .ended ∨ w.stage = .dead ∨ (∃ request, w.stage.request? = some request) ∨
      ∃ file user request, w.stage = .awaiting file user request ∧
        answer? request.fetch = none := by
  cases hs : w.stage with
  | idle =>
    simp only [Worker.advance, hs] at h
    split at h <;> cases h
  | awaiting file user request =>
    simp only [Worker.advance, hs] at h
    split at h
    · cases h
    · next ha => exact Or.inr (Or.inr (Or.inr ⟨file, user, request, rfl, ha⟩))
  | reading d =>
    simp only [Worker.advance, hs] at h
    split at h <;> cases h
  | creating d chunks => exact Or.inr (Or.inr (Or.inl ⟨_, rfl⟩))
  | sending d fileId index chunk later => exact Or.inr (Or.inr (Or.inl ⟨_, rfl⟩))
  | closing d fileId =>
    simp only [Worker.advance, hs] at h
    cases h
  | finalizing d fileId topic => exact Or.inr (Or.inr (Or.inl ⟨_, rfl⟩))
  | clearing file verdict =>
    simp only [Worker.advance, hs] at h
    cases h
  | ended => exact Or.inl rfl
  | dead => exact Or.inr (Or.inl rfl)

/-- A pass goes on as long as the worker can move and the backend answers. -/
theorem Course.run_stops (backend : Backend τ) (answer? : FetchId → Option Answer)
    (c : Course τ) :
    Worker.advance answer? (c.run backend answer?).station (c.run backend answer?).worker = none ∧
      ∀ request, (c.run backend answer?).worker.stage.request? = some request →
        backend (c.run backend answer?).backend (c.run backend answer?).station request = none := by
  fun_induction Course.run backend answer? c with
  | case1 c s w h ih => exact ih
  | case2 c h hq => exact ⟨h, fun request hr => by rw [hq] at hr; cases hr⟩
  | case3 c h request hq hb =>
    refine ⟨h, fun request' hr => ?_⟩
    rw [hq] at hr
    exact Option.some.inj hr ▸ hb
  | case4 c h request hq t s answer hb ih => exact ih

/-- A pass keeps to the protocol from its first step to its last. -/
theorem Stands.run {attempts : List Attempt} {c : Course τ}
    (h : Stands backend answer? pending files t₀ s₀ attempts rest xs c) :
    ∃ attempts rest xs, Stands backend answer? pending files t₀ s₀ attempts rest xs
      (c.run backend answer?) := by
  fun_induction Course.run backend answer? c generalizing attempts rest xs with
  | case1 c s w ha ih =>
    obtain ⟨_, _, _, hnext⟩ := h.advance (Worker.advances_of_advance ha)
    exact ih hnext
  | case2 c ha hq => exact ⟨_, _, _, h⟩
  | case3 c ha request hq hb => exact ⟨_, _, _, h⟩
  | case4 c ha request hq t s answer hb ih =>
    obtain ⟨_, _, _, hnext⟩ := h.receive hq hb
    exact ih hnext

/-- Where a pass stops before its end, it halts. -/
theorem Busy.halts {c : Course τ}
    (hb : Busy backend answer? pending t₁ s₁ rest xs c.backend c.station c.worker)
    (ha : Worker.advance answer? c.station c.worker = none)
    (hq : ∀ request, c.worker.stage.request? = some request →
      backend c.backend c.station request = none) :
    (c.worker.stage = .ended ∧ rest = [] ∧ xs = []) ∨
      (c.worker.stage ≠ .ended ∧ ∃ file later, rest = file :: later ∧
        Halts backend answer? pending t₁ s₁ file xs c) := by
  rcases advance_eq_none ha with hs | hs | ⟨request, hs⟩ | ⟨file, user, request, hs, hnone⟩
  · simp only [Busy, hs] at hb
    exact Or.inl ⟨hs, hb⟩
  · simp only [Busy, hs] at hb
    obtain ⟨file, tick, chunks, rfl, hsends, hlast⟩ := hb
    exact Or.inr ⟨by rw [hs]; exact Stage.noConfusion, file, _, rfl, .died hsends hs hlast⟩
  · obtain ⟨d, hd, -⟩ := Stage.delivery_of_request hs
    obtain ⟨rfl, bytes, -, hsends, hfate, -⟩ := hb.asks hs hd
    refine Or.inr ⟨fun he => ?_, d.file, _, rfl, .held hsends hfate hs (hq request hs)⟩
    rw [he] at hs
    cases hs
  · simp only [Busy, hs] at hb
    obtain ⟨rfl, rfl, -, -, hu, -, hpend⟩ := hb
    exact Or.inr ⟨by rw [hs]; exact Stage.noConfusion, file, _, rfl, .tick hu hpend hnone rfl⟩

/-- If the last answer was death, the backend gave it. -/
theorem Talks.last_of_death (h : Talks backend t s xs t' s')
    (hx : xs.getLast?.map Exchange.answer = some .death) :
    ∃ t s request t' s', backend t s request = some (t', s', .death) := by
  cases h with
  | nil => cases hx
  | snoc _ hb =>
    rw [List.getLast?_concat, Option.map_some] at hx
    rw [Option.some.inj hx] at hb
    exact ⟨_, _, _, _, _, hb⟩

/-- A pass handles its files in order, each by the protocol: the exchanges are those about the
single files, one after the other, and the report says how each file fared.  It comes to its end,
unless it halts at a file; and that it never does where every tick is there and the backend
answers everything. -/
theorem Course.run_passes (backend : Backend τ) (answer? : FetchId → Option Answer) (t : τ)
    (s : Station) (files folders : List Path) (pending : PendingTicks) :
    let c := Course.run backend answer? ⟨t, s, Worker.start files folders pending, []⟩
    (∃ attempts t₁ s₁, Passes backend answer? pending t s attempts t₁ s₁ ∧
      (∀ fate, c.worker.report.of fate = faring fate attempts) ∧
      ((c.worker.stage = .ended ∧ files = attempts.map (·.file) ∧
          c.exchanges = attempts.flatMap (·.exchanges)) ∨
        (c.worker.stage ≠ .ended ∧ ∃ file later xs,
          files = attempts.map (·.file) ++ file :: later ∧
          c.exchanges = attempts.flatMap (·.exchanges) ++ xs ∧
          Halts backend answer? pending t₁ s₁ file xs c))) ∧
    ((∀ t s request, ∃ t' s' answer,
        backend t s request = some (t', s', answer) ∧ answer ≠ .death) →
      (∀ user request, pending.get? user = some request → (answer? request.fetch).isSome) →
      c.worker.stage = .ended) := by
  intro c
  obtain ⟨hadvance, hask⟩ : Worker.advance answer? c.station c.worker = none ∧ _ :=
    Course.run_stops backend answer? ⟨t, s, Worker.start files folders pending, []⟩
  obtain ⟨attempts, rest, xs, hfiles, hx, hreport, -, t₁, s₁, hp, hb⟩ : ∃ attempts rest xs,
      Stands backend answer? pending files t s attempts rest xs c :=
    (stands_start t s files folders).run
  have hstop := hb.halts hadvance hask
  refine ⟨⟨attempts, t₁, s₁, hp, hreport, ?_⟩, fun hanswers hticks => ?_⟩
  · rcases hstop with ⟨hs, rfl, rfl⟩ | ⟨hs, file, later, rfl, hhalts⟩
    · exact Or.inl ⟨hs, by rw [hfiles, List.append_nil], by rw [hx, List.append_nil]⟩
    · exact Or.inr ⟨hs, file, later, xs, hfiles, hx, hhalts⟩
  · rcases hstop with ⟨hs, -⟩ | ⟨-, file, later, -, hhalts⟩
    · exact hs
    · -- every way to halt needs a tick or an answer that is not there
      exfalso
      cases hhalts with
      | tick hu hpend hnone _ =>
        have hsome := hticks _ _ hpend
        rw [hnone] at hsome
        cases hsome
      | @held _ _ request _ _ _ hnone =>
        obtain ⟨t', s', answer, hsome, -⟩ := hanswers c.backend c.station request
        rw [hnone] at hsome
        cases hsome
      | died hsends _ hlast =>
        obtain ⟨t', s', request, t'', s'', hdeath⟩ := hsends.talks.last_of_death hlast
        obtain ⟨_, _, answer, hsome, hne⟩ := hanswers t' s' request
        rw [hdeath] at hsome
        obtain ⟨-, -, rfl⟩ : _ ∧ _ ∧ Answer.death = answer := by simpa using hsome
        exact hne rfl

end PushToTalk.Upload
