import PushToTalk.Proofs.Disk.Removal
import PushToTalk.Proofs.Upload.Retry
import PushToTalk.Proofs.Upload.Tick

/-
  What a pass will say, told beforehand.

  A pass goes through the files of its job one after the other, and what it does with one of them
  could hang on those before it: it waits for a tick once and keeps it for all further files of the
  user, it forgets and remembers ticks, and it deletes files while others are still to be read.
  Here it is shown that nothing of this matters.  Where the answers of the backend hang on the
  requests alone, all that is said about a file, and what becomes of it, is settled before the pass
  begins: the name and the tick are looked up by a plain rule in what the pass is given
  (`Pass.plainly`), the rest is read off the file.

  What has been said so far and what is still to come (`Pass.comes`) always make up the forecast.
  That is the invariant, and a step of the worker moves a part from the second to the first.

  1. **One file** — the dealing with it, from any point to its end (`say`), and the plain rule.  The
     functions are written from the requests, not from the worker, so they are a second account of
     the protocol.

  2. **What is to come** — the account that is kept of what was said and what is to come (`Ledger`).

  3. **The station**, as far as the files before the worker are concerned (`AsAtFirst`): settings
     and users are not touched, the cache has changed for files behind the worker only, and what was
     deleted is none of those ahead.  The last of these needs that no two paths lead to one file.

  4. **The forecast** — every step keeps both (`Foretold.advance`, `Foretold.receive`), so they hold
     where the pass ends, and there nothing is to come any more.

  Backends that answer differently the second time, or that change the settings while they answer,
  are left to the module on courses, which says less about more of them.

  Main statement: `Pass.foretold`.
-/

namespace PushToTalk.Upload

open Disk

variable {τ : Type} {p : Pass τ} {reply : Request → Answer} {s s₀ s' : Station} {w w' : Worker}
  {file : Path} {d : Delivery} {all coming : List Attempt} {a : Attempt} {x : Exchange}
  {told : List Exchange} {report report' : Report}

/-! ## One file -/

/-- The dealing that begins with an exchange and goes on as given. -/
def Attempt.after (a : Attempt) (x : Exchange) : Attempt :=
  { a with exchanges := x :: a.exchanges }

/-- An exchange about a file, and how it goes on if there is an answer; else the file has
failed. -/
def ask (reply : Request → Answer) (file : Path) (request : Request)
    (next : String → Attempt) : Attempt :=
  match reply request with
  | .body text => (next text).after ⟨file, request, .body text⟩
  | .fault f => ⟨file, [⟨file, request, .fault f⟩], .failed⟩
  | .death => ⟨file, [⟨file, request, .death⟩], .failed⟩

/-- The last request about a file, and the verdict. -/
def sayLast (reply : Request → Answer) (topic : String) (d : Delivery) (fileId : String) :
    Attempt :=
  ask reply d.file (finalizeRequest d.name topic fileId d.tick) fun text =>
    ⟨d.file, [], if Text.allBlank text then .uploaded else .rejected⟩

/-- The chunks that are left, and what follows. -/
def sayFrom (reply : Request → Answer) (topic : String) (d : Delivery) (fileId : String)
    (index : Nat) : List Bytes → Attempt
  | [] => sayLast reply topic d fileId
  | chunk :: later => ask reply d.file (chunkRequest fileId index chunk) fun _ =>
    sayFrom reply topic d fileId (index + 1) later

/-- All chunks under the id that the answer to the creation gives, if it gives one. -/
def sayChunks (reply : Request → Answer) (topic : String) (d : Delivery) (chunks : List Bytes)
    (text : String) : Attempt :=
  match parseCreated text with
  | .ok fileId => sayFrom reply topic d fileId 0 chunks
  | .error _ => ⟨d.file, [], .failed⟩

/-- All that is said about a file of the given chunks. -/
def sayAll (reply : Request → Answer) (topic : String) (d : Delivery) (chunks : List Bytes) :
    Attempt :=
  ask reply d.file (createRequest chunks.length) (sayChunks reply topic d chunks)

/-- All that is said about a file as it lies on the disk. -/
def say (reply : Request → Answer) (s : Station) (d : Delivery) : Attempt :=
  match s.disk.read d.file with
  | .ok bytes => sayAll reply s.settings.topic d (Chunk.ofFile bytes)
  | .error _ => ⟨d.file, [], .failed⟩

/-- The dealing with a file by the plain rule.  The name is the one of the user's pending request,
else the one in the directory of users, else the fallback; the tick is the remembered one of the
file, else what the user's pending request was answered, else none. -/
def Pass.plainly (p : Pass τ) (reply : Request → Answer) (s : Station) (file : Path) : Attempt :=
  match UserId.ofPath file with
  | .error _ => ⟨file, [], .skipped⟩
  | .ok user =>
    say reply s ⟨file, filedUnder p.pending s user, (s.cache.get? file).getD (p.tickOf user)⟩

/-- With an answer the dealing goes on. -/
theorem ask_body {request : Request} {next : String → Attempt} {text : String}
    (h : reply request = .body text) :
    ask reply file request next = (next text).after ⟨file, request, .body text⟩ := by
  simp [ask, h]

/-- A failure is its end. -/
theorem ask_fault {request : Request} {next : String → Attempt} {f : Fault}
    (h : reply request = .fault f) :
    ask reply file request next = ⟨file, [⟨file, request, .fault f⟩], .failed⟩ := by
  simp [ask, h]

/-- An answer to the creation that names a file leads on to its chunks. -/
theorem sayAll_named {topic text fileId : String} {chunks : List Bytes}
    (h : reply (createRequest chunks.length) = .body text)
    (hp : parseCreated text = .ok fileId) :
    sayAll reply topic d chunks = (sayFrom reply topic d fileId 0 chunks).after
      ⟨d.file, createRequest chunks.length, .body text⟩ := by
  unfold sayAll
  rw [ask_body h, sayChunks, hp]

/-- An answer that names none is the end, and the file has failed. -/
theorem sayAll_unnamed {topic text : String} {why : Misread} {chunks : List Bytes}
    (h : reply (createRequest chunks.length) = .body text)
    (hp : parseCreated text = .error why) :
    sayAll reply topic d chunks =
      ⟨d.file, [⟨d.file, createRequest chunks.length, .body text⟩], .failed⟩ := by
  unfold sayAll
  rw [ask_body h, sayChunks, hp]
  rfl

/-- A file that can be read is dealt with by its chunks. -/
theorem say_of_read {bytes : Bytes} (h : s.disk.read d.file = .ok bytes) :
    say reply s d = sayAll reply s.settings.topic d (Chunk.ofFile bytes) := by
  unfold say
  rw [h]

/-- All of a dealing is about one file. -/
theorem file_ask {request : Request} {next : String → Attempt}
    (h : ∀ text, (next text).file = file) : (ask reply file request next).file = file := by
  unfold ask
  split
  · next text _ => exact h text
  · rfl
  · rfl

/-- The chunks are said of the file of the delivery. -/
theorem file_sayFrom (reply : Request → Answer) (topic : String) (d : Delivery)
    (fileId : String) (index : Nat) (chunks : List Bytes) :
    (sayFrom reply topic d fileId index chunks).file = d.file := by
  induction chunks generalizing index with
  | nil => exact file_ask fun _ => rfl
  | cons chunk later ih => exact file_ask fun _ => ih (index + 1)

/-- Everything that is said about a file is said of that file. -/
theorem file_say (reply : Request → Answer) (s : Station) (d : Delivery) :
    (say reply s d).file = d.file := by
  unfold say
  split
  · refine file_ask fun text => ?_
    unfold sayChunks
    split
    · exact file_sayFrom _ _ _ _ _ _
    · rfl
  · rfl

/-- The plain rule tells of the file that it is given. -/
@[simp] theorem Pass.file_plainly (p : Pass τ) (reply : Request → Answer) (s : Station)
    (file : Path) : (p.plainly reply s file).file = file := by
  unfold plainly
  split
  · rfl
  · exact file_say _ _ _

/-! ## What is to come -/

/-- What becomes of a file by a verdict. -/
def Verdict.fate : Verdict → Fate
  | .accepted => .uploaded
  | .rejected => .rejected

/-- The rest of the dealing that a worker is in the middle of, if the pass has begun at a
station. -/
def Pass.present (p : Pass τ) (reply : Request → Answer) (s₀ : Station) : Stage → List Attempt
  | .awaiting file user request => [say reply s₀ ⟨file, request.name, p.tickOf user⟩]
  | .reading d => [say reply s₀ d]
  | .creating d chunks => [sayAll reply s₀.settings.topic d chunks]
  | .sending d fileId index chunk later =>
    [sayFrom reply s₀.settings.topic d fileId index (chunk :: later)]
  | .closing d fileId => [sayLast reply s₀.settings.topic d fileId]
  | .finalizing d fileId topic => [sayLast reply topic d fileId]
  | .clearing file verdict => [⟨file, [], verdict.fate⟩]
  | .idle | .ended | .dead => []

/-- What is still to come of a pass. -/
def Pass.comes (p : Pass τ) (reply : Request → Answer) (s₀ : Station) (w : Worker) :
    List Attempt :=
  p.present reply s₀ w.stage ++ w.todo.map (p.plainly reply s₀)

/-- In front of the chunks that are left, or of the end where none is, a worker will say these
chunks. -/
theorem Pass.present_sendFrom (p : Pass τ) (reply : Request → Answer) (s₀ : Station)
    (d : Delivery) (fileId : String) (index : Nat) (chunks : List Bytes) :
    p.present reply s₀ (sendFrom d fileId index chunks) =
      [sayFrom reply s₀.settings.topic d fileId index chunks] := by
  cases chunks <;> rfl

/-- An exchange that fails is the end of the dealing. -/
theorem Pass.present_of_fault {stage : Stage} {request : Request} {f : Fault}
    (hd : stage.delivery? = some d) (hq : stage.request? = some request)
    (h : reply request = .fault f) :
    p.present reply s₀ stage = [⟨d.file, [⟨d.file, request, .fault f⟩], .failed⟩] := by
  cases stage with
  | creating d' chunks =>
    obtain rfl : d' = d := Option.some.inj hd
    obtain rfl : createRequest chunks.length = request := Option.some.inj hq
    exact congrArg (fun a => [a]) (ask_fault h)
  | sending d' fileId index chunk later =>
    obtain rfl : d' = d := Option.some.inj hd
    obtain rfl : chunkRequest fileId index chunk = request := Option.some.inj hq
    exact congrArg (fun a => [a]) (ask_fault h)
  | finalizing d' fileId topic =>
    obtain rfl : d' = d := Option.some.inj hd
    obtain rfl : finalizeRequest d'.name topic fileId d'.tick = request := Option.some.inj hq
    exact congrArg (fun a => [a]) (ask_fault h)
  | _ => cases hq

/-- Behind a file that is done there are only the files that were not begun. -/
theorem Pass.comes_handled (p : Pass τ) (reply : Request → Answer) (s₀ : Station) (w : Worker)
    (file : Path) (report : Report) :
    p.comes reply s₀ (w.handled file report) = w.todo.map (p.plainly reply s₀) := by
  simp [comes, present]

/-- The first file is among those that fared alike, or not. -/
theorem faring_cons (fate : Fate) (a : Attempt) (attempts : List Attempt) :
    faring fate (a :: attempts) =
      if a.fate = fate then a.file :: faring fate attempts else faring fate attempts := by
  unfold faring
  by_cases h : a.fate = fate <;> simp [h]

/-- What was said and reported, and what is to come, make up the whole. -/
structure Ledger (all : List Attempt) (told : List Exchange) (report : Report)
    (coming : List Attempt) : Prop where
  exchanges : told ++ coming.flatMap (·.exchanges) = all.flatMap (·.exchanges)
  report : ∀ fate, report.of fate ++ faring fate coming = faring fate all

/-- One exchange more was said, so it is no longer to come. -/
theorem Ledger.said (h : Ledger all told report (a.after x :: coming)) :
    Ledger all (told ++ [x]) report (a :: coming) where
  exchanges := by
    rw [← h.exchanges]
    simp [Attempt.after]
  report fate := by
    rw [← h.report fate, faring_cons, faring_cons]
    rfl

/-- A file is done: it is reported, and it is no longer to come. -/
theorem Ledger.done {xs : List Exchange} {fate : Fate}
    (h : Ledger all told report (⟨file, xs, fate⟩ :: coming))
    (hnoted : ∀ f, report'.of f = if fate = f then report.of f ++ [file] else report.of f) :
    Ledger all (told ++ xs) report' coming where
  exchanges := by
    rw [← h.exchanges]
    simp
  report f := by
    rw [← h.report f, faring_cons, hnoted f]
    by_cases he : fate = f <;> simp [he]

/-! ## The station -/

/-- For the file that a worker is busy with and those that it has not begun, the station is as it
was at first.  No two of them are the same file. -/
structure AsAtFirst (s₀ s : Station) (busy : Option Path) (todo : List Path) : Prop where
  settings : s.settings = s₀.settings
  users : s.users = s₀.users
  cache : ∀ file ∈ todo, s.cache.get? file = s₀.cache.get? file
  disk : ∀ file ∈ busy.toList ++ todo, ∀ bytes,
    s.disk.read file = .ok bytes ↔ s₀.disk.read file = .ok bytes
  apart : (busy.toList ++ todo).Pairwise fun f g => (f == g) = false ∧ ¬ s.disk.SameFile f g

section Stations

variable {todo : List Path}

/-- The next file is begun, and nothing has changed for it or for those behind it. -/
theorem AsAtFirst.begin (h : AsAtFirst s₀ s none (file :: todo)) :
    AsAtFirst s₀ s (some file) todo where
  settings := h.settings
  users := h.users
  cache f hf := h.cache f (List.mem_cons_of_mem _ hf)
  disk := h.disk
  apart := h.apart

/-- A file that is done need not be as it was at first. -/
theorem AsAtFirst.drop (h : AsAtFirst s₀ s (some file) todo) : AsAtFirst s₀ s none todo where
  settings := h.settings
  users := h.users
  cache := h.cache
  disk f hf := h.disk f (List.mem_cons_of_mem _ hf)
  apart := (List.pairwise_cons.1 h.apart).2

/-- A worker may do as it likes with what is remembered of the file that it is busy with. -/
theorem AsAtFirst.withCache (h : AsAtFirst s₀ s (some file) todo) {cache : RetryCache}
    (hc : ∀ f, (file == f) = false → cache.get? f = s.cache.get? f) :
    AsAtFirst s₀ { s with cache } (some file) todo where
  settings := h.settings
  users := h.users
  cache f hf := by
    have hother : (file == f) = false := (List.rel_of_pairwise_cons h.apart hf).1
    exact (hc f hother).trans (h.cache f hf)
  disk := h.disk
  apart := h.apart

/-- Remembering a tick for the file in hand changes nothing for the others. -/
theorem AsAtFirst.remember (h : AsAtFirst s₀ s (some file) todo) (tick : TickData) :
    AsAtFirst s₀ (s.remember file tick) none todo := by
  refine (h.withCache fun f hf => ?_).drop
  rw [Table.get?_put, hf]
  rfl

/-- Forgetting it does not either. -/
theorem AsAtFirst.forget (h : AsAtFirst s₀ s (some file) todo) :
    AsAtFirst s₀ (s.forget file) (some file) todo := by
  refine h.withCache fun f hf => ?_
  rw [Table.get?_erase, hf]
  rfl

/-- The file that is deleted is none of those that are still to come. -/
theorem AsAtFirst.delete (h : AsAtFirst s₀ s (some file) todo) {bytes : Bytes}
    (hread : s.disk.read file = .ok bytes) : AsAtFirst s₀ (s.delete file) none todo := by
  obtain ⟨v, hv, -, hremove⟩ := removeFile_of_read hread
  have hdelete : s.delete file = { s with disk := s.disk.clear v } := by
    unfold Station.delete
    rw [hremove]
  rw [hdelete]
  obtain ⟨hfirst, hlater⟩ := List.pairwise_cons.1 h.apart
  constructor
  · exact h.settings
  · exact h.users
  · exact h.cache
  · intro f hf bytes'
    -- the file in hand and a later one are different files, so the entry that goes is not the later
    -- one's
    have hother : ¬ s.disk.SameFile f file := fun he => (hfirst f hf).2 he.symm
    exact (read_clear_iff hread hv hother).trans (h.disk f (List.mem_cons_of_mem _ hf) bytes')
  · exact hlater.imp fun hfg => ⟨hfg.1, fun he => hfg.2 ((within_clear s.disk v).sameFile he)⟩

/-- At the end there is no file left for which anything could have changed. -/
theorem AsAtFirst.finish (h : AsAtFirst s₀ s none []) (folders : List Path) :
    AsAtFirst s₀ (s.finish folders) none [] where
  settings := h.settings
  users := h.users
  cache _ hf := absurd hf List.not_mem_nil
  disk _ hf := absurd hf List.not_mem_nil
  apart := List.Pairwise.nil

end Stations

/-! ## The forecast -/

namespace Pass

/-- The job of a pass. -/
def job (p : Pass τ) : Job := ⟨p.files, p.folders, p.pending⟩

/-- The answers of the backend hang on the requests alone, every tick comes, and nobody but the
pass changes the station. -/
structure Steady (p : Pass τ) (reply : Request → Answer) : Prop where
  ticks : ∀ user request, p.pending.get? user = some request →
    (p.answer? request.fetch).isSome
  alive : ∀ request, reply request ≠ .death
  answers : ∀ t s request, ∃ t', p.backend t s request = some (t', s, reply request)

/-- Such a pass is complete: it has all it needs to come to its end. -/
theorem Steady.complete (h : p.Steady reply) : p.Complete where
  ticks := h.ticks
  answers t s request := by
    obtain ⟨t', ht⟩ := h.answers t s request
    exact ⟨t', s, reply request, ht, h.alive request, rfl⟩

/-- Between any two steps, what was said and reported and what is to come make up the forecast,
and the files to come are as they were at first. -/
structure Foretold (p : Pass τ) (reply : Request → Answer) (s₀ : Station) (all : List Attempt)
    (c : Course τ) : Prop where
  ledger : Ledger all c.exchanges c.worker.report (p.comes reply s₀ c.worker)
  first : AsAtFirst s₀ c.station c.worker.stage.file? c.worker.todo
  informed : c.worker.Informed p.answer? p.job
  /-- What is being sent, or was delivered, can be read. -/
  there : ∀ file, c.worker.stage.sends? = some file ∨ c.worker.stage.clears? = some file →
    ∃ bytes, c.station.disk.read file = .ok bytes
  finished : c.worker.stage = .ended → c.worker.todo = []

variable {c : Course τ}

/-- A file is done. -/
theorem foretold_handled {t : τ} {xs exchanges : List Exchange} {fate : Fate}
    (hx : exchanges = told ++ xs)
    (hledger : Ledger all told w.report (⟨file, xs, fate⟩ :: w.todo.map (p.plainly reply s₀)))
    (hnoted : ∀ f, report.of f = if fate = f then w.report.of f ++ [file] else w.report.of f)
    (hfirst : AsAtFirst s₀ s none w.todo)
    (hinformed : (w.handled file report).Informed p.answer? p.job) :
    p.Foretold reply s₀ all ⟨t, s, w.handled file report, exchanges⟩ where
  ledger := by
    subst hx
    show Ledger all (told ++ xs) (w.handled file report).report
      (p.comes reply s₀ (w.handled file report))
    rw [p.comes_handled, Worker.handled_report]
    exact hledger.done hnoted
  first := by simpa [Stage.file?] using hfirst
  informed := hinformed
  there f hf := by simp [Stage.sends?, Stage.clears?] at hf
  finished he := by simp at he

/-- The worker looks up the name and the tick of a file as the plain rule does. -/
theorem plainly_of_read {user : UserId} {name : String} {tick : TickData}
    (complete : p.Complete) (hk : Knows p.answer? p.pending w.correlations)
    (hfirst : AsAtFirst s₀ s none (file :: w.todo)) (hu : UserId.ofPath file = .ok user)
    (hn : name = ((w.correlations.get? user).map Correlation.name).getD (s.nameOf user))
    (ht : s.cache.get? file = some tick ∨ s.cache.get? file = none ∧
      ((∃ n, w.correlations.get? user = some (.resolved n tick)) ∨
        w.correlations.get? user = none ∧ tick = .unknown)) :
    p.plainly reply s₀ file = say reply s₀ ⟨file, name, tick⟩ := by
  have hcache : s.cache.get? file = s₀.cache.get? file := hfirst.cache file List.mem_cons_self
  have hname : name = filedUnder p.pending s₀ user := by
    rw [hn, hk.name]
    unfold filedUnder Station.nameOf
    rw [hfirst.users]
  -- what the worker knows of the user was told by the requests of the pass, as the plain rule looks
  -- it up
  have htick : tick = (s₀.cache.get? file).getD (p.tickOf user) := by
    have hknown := hk.tick_of ht
    rw [complete.tickFor, hcache] at hknown
    exact (Option.some.inj hknown).symm
  unfold plainly
  rw [hu, hname, htick]

/-- A tick that the worker waits for is the one of the plain rule. -/
theorem plainly_of_await {user : UserId} {request : PendingTick}
    (hfirst : AsAtFirst s₀ s none (file :: w.todo)) (hu : UserId.ofPath file = .ok user)
    (hc : s.cache.get? file = none) (hp : p.pending.get? user = some request) :
    p.plainly reply s₀ file = say reply s₀ ⟨file, request.name, p.tickOf user⟩ := by
  have hcache : s₀.cache.get? file = none :=
    (hfirst.cache file List.mem_cons_self).symm.trans hc
  have hname : filedUnder p.pending s₀ user = request.name := by
    unfold filedUnder
    rw [hp]
  unfold plainly
  rw [hu]
  show say reply s₀ ⟨file, filedUnder p.pending s₀ user, _⟩ = _
  rw [hname, hcache]
  rfl

/-- The tick of a user is what the answer to the request gives. -/
theorem tickOf_of_answer {user : UserId} {request : PendingTick} {answer : Answer}
    (hp : p.pending.get? user = some request) (ha : p.answer? request.fetch = some answer) :
    p.tickOf user = TickData.ofAnswer answer := by
  unfold tickOf
  rw [hp]
  simp [ha]

/-- A worker that goes on with its file goes on as foretold. -/
theorem Foretold.goes_on {stage : Stage} {correlations : Table UserId Correlation}
    (h : p.Foretold reply s₀ all c) (hfile : stage.file? = c.worker.stage.file?)
    (hpresent : p.present reply s₀ stage = p.present reply s₀ c.worker.stage)
    (hinformed : ({ c.worker with stage, correlations } : Worker).Informed p.answer? p.job)
    (hthere : ∀ file, stage.sends? = some file ∨ stage.clears? = some file →
      ∃ bytes, c.station.disk.read file = .ok bytes) (hover : stage ≠ .ended) :
    p.Foretold reply s₀ all { c with worker := { c.worker with stage, correlations } } where
  ledger := by
    show Ledger all c.exchanges c.worker.report
      (p.present reply s₀ stage ++ c.worker.todo.map (p.plainly reply s₀))
    rw [hpresent]
    exact h.ledger
  first := by
    show AsAtFirst s₀ c.station stage.file? c.worker.todo
    rw [hfile]
    exact h.first
  informed := hinformed
  there := hthere
  finished he := absurd he hover

/-- The next file is begun as the plain rule has it. -/
theorem Foretold.begin {later : List Path} (complete : p.Complete)
    (h : p.Foretold reply s₀ all c) (hs : c.worker.stage = .idle)
    (ht : c.worker.todo = file :: later)
    (hb : Worker.Begins c.station { c.worker with todo := later } file w')
    (hinformed : w'.Informed p.answer? p.job) :
    p.Foretold reply s₀ all { c with worker := w' } := by
  obtain ⟨hledger, hfirst, hknown, -, -⟩ := h
  unfold comes at hledger
  rw [hs, ht] at hledger hfirst
  have hledger : Ledger all c.exchanges c.worker.report
      (p.plainly reply s₀ file :: later.map (p.plainly reply s₀)) := hledger
  have hfirst : AsAtFirst s₀ c.station none (file :: later) := hfirst
  -- the worker and the plain rule look at the same things: the user id, the cache, the request
  cases hb with
  | skip hu =>
    have hskip : p.plainly reply s₀ file = ⟨file, [], .skipped⟩ := by
      unfold plainly
      rw [hu]
    rw [hskip] at hledger
    refine foretold_handled (w := { c.worker with todo := later }) (List.append_nil _).symm
      hledger ?_ hfirst.begin.drop hinformed
    intro f
    cases f <;> rfl
  | read hu hn htick =>
    rw [plainly_of_read (w := { c.worker with todo := later }) complete hknown.knows hfirst hu hn
      htick] at hledger
    exact ⟨hledger, hfirst.begin, hinformed,
      fun f hf => by simp [Stage.sends?, Stage.clears?] at hf, Stage.noConfusion⟩
  | await hu hc hpend =>
    have hgiven := hknown.knows.pending_of hpend
    rw [plainly_of_await (w := { c.worker with todo := later }) hfirst hu hc hgiven] at hledger
    exact ⟨hledger, hfirst.begin, hinformed,
      fun f hf => by simp [Stage.sends?, Stage.clears?] at hf, Stage.noConfusion⟩

/-- A step of the worker's own is no surprise. -/
theorem Foretold.advance (complete : p.Complete) (h : p.Foretold reply s₀ all c)
    (ha : Worker.Advances p.answer? c.station c.worker s' w') :
    p.Foretold reply s₀ all { c with station := s', worker := w' } := by
  have hinformed : w'.Informed p.answer? p.job := h.informed.advance (fun _ _ he => he) ha
  cases ha with
  | begin hs ht hb => exact h.begin complete hs ht hb hinformed
  | finish hs ht =>
    obtain ⟨hledger, hfirst, -, -, -⟩ := h
    unfold comes at hledger
    rw [hs, ht] at hledger hfirst
    constructor
    · show Ledger all c.exchanges { c.worker.report with folders := c.worker.folders }
        (c.worker.todo.map (p.plainly reply s₀))
      rw [ht]
      refine ⟨hledger.exchanges, fun f => ?_⟩
      rw [← hledger.report f]
      cases f <;> rfl
    · show AsAtFirst s₀ (c.station.finish c.worker.folders) none c.worker.todo
      rw [ht]
      exact hfirst.finish _
    · exact hinformed
    · intro f hf
      simp [Stage.sends?, Stage.clears?] at hf
    · exact fun _ => ht
  -- what was to come of this file was foretold with the tick that now has come
  | @resolve file user request answer hs hanswer =>
    obtain ⟨-, hpend⟩ := h.informed.awaits _ _ _ hs
    refine h.goes_on (by rw [hs]; rfl) ?_ hinformed ?_ Stage.noConfusion
    · show [say reply s₀ ⟨file, request.name, TickData.ofAnswer answer⟩] = _
      rw [hs, ← tickOf_of_answer hpend hanswer]
      rfl
    · intro f hf
      simp [Stage.sends?, Stage.clears?] at hf
  | @read d chunks hs hread =>
    obtain ⟨bytes, hbytes, rfl⟩ := Chunk.read_eq_ok.1 hread
    have hfirst := h.first
    rw [hs] at hfirst
    have hbytes₀ : s₀.disk.read d.file = .ok bytes :=
      (hfirst.disk d.file List.mem_cons_self bytes).1 hbytes
    refine h.goes_on (by rw [hs]; rfl) ?_ hinformed ?_ Stage.noConfusion
    · rw [hs]
      show [sayAll reply s₀.settings.topic d (Chunk.ofFile bytes)] = [say reply s₀ d]
      rw [say_of_read hbytes₀]
    · intro f hf
      obtain rfl : d.file = f := by simpa [Stage.sends?, Stage.clears?] using hf
      exact ⟨bytes, hbytes⟩
  -- it could not have been read at first, so it was foretold to fail
  | @unread d why hs hread =>
    obtain ⟨hledger, hfirst, -, -, -⟩ := h
    unfold comes at hledger
    rw [hs] at hledger hfirst
    have hsay : say reply s₀ d = ⟨d.file, [], .failed⟩ := by
      unfold say
      cases hbytes : s₀.disk.read d.file with
      | error why => rfl
      | ok bytes =>
        have hbytes' := (hfirst.disk d.file List.mem_cons_self bytes).2 hbytes
        rw [Chunk.read_eq_error.1 hread] at hbytes'
        cases hbytes'
    have hledger : Ledger all c.exchanges c.worker.report
        (say reply s₀ d :: c.worker.todo.map (p.plainly reply s₀)) := hledger
    rw [hsay] at hledger
    refine foretold_handled (List.append_nil _).symm hledger ?_ (hfirst.remember d.tick) hinformed
    intro f
    cases f <;> rfl
  | @close d fileId hs =>
    have hthere := h.there
    refine h.goes_on (by rw [hs]; rfl) ?_ hinformed ?_ Stage.noConfusion
    · rw [hs]
      show [sayLast reply c.station.settings.topic d fileId] = _
      rw [h.first.settings]
      rfl
    · intro f hf
      refine hthere f ?_
      rw [hs]
      simpa [Stage.sends?, Stage.clears?] using hf
  | @clear file verdict hs =>
    obtain ⟨hledger, hfirst, -, hthere, -⟩ := h
    unfold comes at hledger
    rw [hs] at hledger hfirst
    obtain ⟨bytes, hread⟩ := hthere file (Or.inr (by rw [hs]; rfl))
    have hledger : Ledger all c.exchanges c.worker.report
        (⟨file, [], verdict.fate⟩ :: c.worker.todo.map (p.plainly reply s₀)) := hledger
    refine foretold_handled (List.append_nil _).symm hledger ?_ (hfirst.delete hread) hinformed
    intro f
    cases verdict <;> cases f <;> rfl

/-- A worker that goes on with the chunks that are left goes on as foretold. -/
theorem foretold_sendFrom {t : τ} {fileId : String} {index : Nat} {chunks : List Bytes}
    {bytes : Bytes}
    (hledger : Ledger all told w.report
      (sayFrom reply s₀.settings.topic d fileId index chunks ::
        w.todo.map (p.plainly reply s₀)))
    (hfirst : AsAtFirst s₀ s (some d.file) w.todo) (hread : s.disk.read d.file = .ok bytes)
    (hinformed : ({ w with stage := sendFrom d fileId index chunks } : Worker).Informed
      p.answer? p.job) :
    p.Foretold reply s₀ all ⟨t, s, { w with stage := sendFrom d fileId index chunks }, told⟩ where
  ledger := by
    show Ledger all told w.report
      (p.present reply s₀ (sendFrom d fileId index chunks) ++ w.todo.map (p.plainly reply s₀))
    rw [p.present_sendFrom]
    exact hledger
  first := by
    show AsAtFirst s₀ s (sendFrom d fileId index chunks).file? w.todo
    rw [Worker.file?_sendFrom]
    exact hfirst
  informed := hinformed
  there f hf := by
    obtain rfl : d.file = f := by
      cases chunks <;> simpa [sendFrom, Stage.sends?, Stage.clears?] using hf
    exact ⟨bytes, hread⟩
  finished he := absurd he (Worker.sendFrom_ne_ended _ _ _ _)

/-- The end of an exchange is no surprise. -/
theorem Foretold.receive {t : τ} {request : Request} (alive : ∀ request, reply request ≠ .death)
    (h : p.Foretold reply s₀ all c) (hq : c.worker.stage.request? = some request) :
    p.Foretold reply s₀ all (c.exchanged request t c.station (reply request)) := by
  obtain ⟨d, hd, hfile⟩ := Stage.delivery_of_request hq
  have hrec := Worker.receives_receive c.station (reply request) (w := c.worker)
    (by rw [hq]; rfl)
  have hexch : c.exchanged request t c.station (reply request) =
      ⟨t, (c.worker.receive c.station (reply request)).1,
        (c.worker.receive c.station (reply request)).2,
        c.exchanges ++ [⟨d.file, request, reply request⟩]⟩ := by
    simp [Course.exchanged, hfile]
  rw [hexch]
  generalize (c.worker.receive c.station (reply request)).1 = s',
    (c.worker.receive c.station (reply request)).2 = w' at hrec ⊢
  have hinformed : w'.Informed p.answer? p.job := h.informed.receive hrec
  obtain ⟨hledger, hfirst, -, hthere, -⟩ := h
  obtain ⟨bytes, hread⟩ := hthere d.file (Or.inl (Stage.sends_of_request hq hfile))
  have hmay := alive request
  unfold comes at hledger
  rw [hfile] at hfirst
  -- the answer is a variable from here on, so that the cases can be those of the ends of an
  -- exchange
  generalize hanswer : reply request = answer at *
  cases hrec with
  | @created d' chunks text fileId hs hparse =>
    rw [hs] at hd hq hledger
    obtain rfl : d' = d := Option.some.inj hd
    obtain rfl : createRequest chunks.length = request := Option.some.inj hq
    have hsay : p.present reply s₀ (.creating d' chunks) = [(sayFrom reply s₀.settings.topic d'
        fileId 0 chunks).after ⟨d'.file, createRequest chunks.length, .body text⟩] :=
      congrArg (fun a => [a]) (sayAll_named hanswer hparse)
    rw [hsay] at hledger
    exact foretold_sendFrom hledger.said hfirst hread hinformed
  | @unnamed d' chunks text why hs hparse =>
    rw [hs] at hd hq hledger
    obtain rfl : d' = d := Option.some.inj hd
    obtain rfl : createRequest chunks.length = request := Option.some.inj hq
    have hsay : p.present reply s₀ (.creating d' chunks) =
        [⟨d'.file, [⟨d'.file, createRequest chunks.length, .body text⟩], .failed⟩] :=
      congrArg (fun a => [a]) (sayAll_unnamed hanswer hparse)
    rw [hsay] at hledger
    refine foretold_handled rfl hledger ?_ (hfirst.remember d'.tick) hinformed
    intro f
    cases f <;> rfl
  | @sent d' fileId text index chunk later hs =>
    rw [hs] at hd hq hledger
    obtain rfl : d' = d := Option.some.inj hd
    obtain rfl : chunkRequest fileId index chunk = request := Option.some.inj hq
    have hsay : p.present reply s₀ (.sending d' fileId index chunk later) =
        [(sayFrom reply s₀.settings.topic d' fileId (index + 1) later).after
          ⟨d'.file, chunkRequest fileId index chunk, .body text⟩] :=
      congrArg (fun a => [a]) (ask_body hanswer)
    rw [hsay] at hledger
    exact foretold_sendFrom hledger.said hfirst hread hinformed
  | @verdict d' fileId topic text hs =>
    rw [hs] at hd hq hledger
    obtain rfl : d' = d := Option.some.inj hd
    obtain rfl : finalizeRequest d'.name topic fileId d'.tick = request := Option.some.inj hq
    have hsay : p.present reply s₀ (.finalizing d' fileId topic) =
        [(⟨d'.file, [], if Text.allBlank text then .uploaded else .rejected⟩ : Attempt).after
          ⟨d'.file, finalizeRequest d'.name topic fileId d'.tick, .body text⟩] :=
      congrArg (fun a => [a]) (ask_body hanswer)
    rw [hsay] at hledger
    have hfate : (if Text.allBlank text then Verdict.accepted else .rejected).fate =
        if Text.allBlank text then .uploaded else .rejected := by
      split <;> rfl
    have hsaid := hledger.said
    rw [← hfate] at hsaid
    refine ⟨hsaid, hfirst.forget, hinformed, fun f hf => ?_, Stage.noConfusion⟩
    obtain rfl : d'.file = f := by simpa [Stage.sends?, Stage.clears?, Worker.deliver] using hf
    exact ⟨bytes, hread⟩
  | @broken d' f hs =>
    have hd' : c.worker.stage.delivery? = some d' := by
      rcases hs with ⟨_, hs⟩ | ⟨_, _, _, _, hs⟩ | ⟨_, _, hs⟩ <;> rw [hs] <;> rfl
    obtain rfl : d = d' := Option.some.inj (hd.symm.trans hd')
    rw [present_of_fault hd hq hanswer] at hledger
    refine foretold_handled rfl hledger ?_ (hfirst.remember d.tick) hinformed
    intro f
    cases f <;> rfl
  | died => exact absurd rfl hmay

/-- A pass goes as foretold from its first step to its last. -/
theorem Foretold.run (steady : p.Steady reply) (h : p.Foretold reply s₀ all c) :
    p.Foretold reply s₀ all (c.run p.backend p.answer?) := by
  fun_induction Course.run p.backend p.answer? c with
  | case1 c s w ha ih => exact ih (h.advance steady.complete (Worker.advances_of_advance ha))
  | case2 c ha hq => exact h
  | case3 c ha request hq hb => exact h
  | case4 c ha request hq t s answer hb ih =>
    -- the backend answers as it always does, and leaves the station alone
    obtain ⟨t', ht⟩ := steady.answers c.backend c.station request
    rw [hb] at ht
    obtain ⟨rfl, rfl, rfl⟩ : t = t' ∧ s = c.station ∧ answer = reply request := by simpa using ht
    exact ih (h.receive steady.alive hq)

/-- No two files of the pass are the same file. -/
def Apart (p : Pass τ) : Prop :=
  p.files.Pairwise fun f g => (f == g) = false ∧ ¬ p.station.disk.SameFile f g

/-- Before the first step nothing has been said, and all of it is to come. -/
theorem foretold_start (reply : Request → Answer) (apart : p.Apart) (cache : RetryCache) :
    p.Foretold reply (p.found cache) (p.files.map (p.plainly reply (p.found cache)))
      ⟨p.state, p.found cache, Worker.start p.files p.folders p.pending, []⟩ where
  ledger := by
    refine ⟨rfl, fun fate => ?_⟩
    cases fate <;> rfl
  first := ⟨rfl, rfl, fun _ _ => rfl, fun _ _ _ => Iff.rfl, apart⟩
  informed := Worker.informed_start p.answer? p.job
  there _ hf := by rcases hf with hf | hf <;> cases hf
  finished he := by cases he

/-- Where the answers of the backend hang on the requests alone, a pass at files of which no two
are the same says about each what the plain rule has said about it, and reports it so. -/
theorem foretold (steady : p.Steady reply) (apart : p.Apart) (cache : RetryCache) :
    (p.course cache).worker.stage = .ended ∧
    (p.course cache).exchanges =
      p.files.flatMap (fun f => (p.plainly reply (p.found cache) f).exchanges) ∧
    ∀ fate, (p.course cache).worker.report.of fate =
      p.files.filter fun f => (p.plainly reply (p.found cache) f).fate = fate := by
  have hends := steady.complete.ends cache
  obtain ⟨hledger, -, -, -, hover⟩ : p.Foretold reply (p.found cache)
    (p.files.map (p.plainly reply (p.found cache))) (p.course cache) :=
      (foretold_start reply apart cache).run steady
  have hnothing : p.comes reply (p.found cache) (p.course cache).worker = [] := by
    unfold comes
    rw [hends, hover hends]
    rfl
  rw [hnothing] at hledger
  refine ⟨hends, ?_, fun fate => ?_⟩
  · simpa [List.flatMap_map] using hledger.exchanges
  · have hreport := hledger.report fate
    rw [show faring fate ([] : List Attempt) = [] from rfl, List.append_nil] at hreport
    rw [hreport, faring, List.filter_map, List.map_map]
    simp [Function.comp_def]

end Pass

end PushToTalk.Upload
