import PushToTalk.Proofs.Upload.Course
import PushToTalk.Proofs.Upload.Job
import PushToTalk.Proofs.Upload.Verdict

/-
  Where a worker has its ticks from.

  A worker files a recording under the tick in the retry cache, or else under the one that the
  requests of its job give for the user.  Nothing that comes later changes it: the delivery keeps
  its tick, and a failure puts that same tick into the cache.  The protocol tells this of a whole
  pass; here it is told of single steps, because in the relay several workers move in turn and share
  a cache.

  1. **Files that lie ahead** of a worker, and how each of them is done with: skipped, remembered,
     judged, or lost with the worker (`Advances.ahead`, `Receives.ahead`).

  2. **What a worker knows** comes from the requests of its job (`Informed`), as far as they are
     answered by now.  More answers may come later, so the statements allow for what is `known` to
     grow.

  3. **Deliveries** have their tick from the cache or from these requests (`Informed.delivers`).

  4. **The cache** — a step changes one entry at most, of the file in hand (`Advances.cache`,
     `Receives.cache`).  So a file that is neither remembered nor judged still lies ahead
     (`Advances.still_ahead`, `Receives.still_ahead`).

  Main statements: `Informed.advance`, `Informed.delivers`, `Advances.cache` and `Receives.cache`.
-/

namespace PushToTalk.Upload

/-- The delivery that a worker has in hand. -/
def Stage.delivers? : Stage → Option Delivery
  | .reading d | .creating d _ | .sending d _ _ _ _ | .closing d _ | .finalizing d _ _ => some d
  | _ => none

/-- A delivery is of the file that the worker is at. -/
theorem Stage.file?_of_delivers {stage : Stage} {d : Delivery} (h : stage.delivers? = some d) :
    stage.file? = some d.file := by
  cases stage with
  | reading | creating | sending | closing | finalizing =>
    obtain rfl := Option.some.inj h
    rfl
  | _ => cases h

/-- With chunks left or without, the delivery goes on. -/
theorem Stage.delivers_sendFrom (d : Delivery) (fileId : String) (index : Nat)
    (chunks : List Bytes) : (sendFrom d fileId index chunks).delivers? = some d := by
  cases chunks <;> rfl

/-- The tick that the requests of a job give for a file, once they are answered as `known` says. -/
def Job.Gives (known : FetchId → Option Answer) (job : Job) (file : Path) (tick : TickData) :
    Prop :=
  ∃ user, UserId.ofPath file = .ok user ∧
    match job.pending.get? user with
    | some request => ∃ answer, known request.fetch = some answer ∧ tick = .ofAnswer answer
    | none => tick = .unknown

/-- The tick by the rule of a pass is one that the job gives, where none is remembered. -/
theorem Job.gives_of_tickFor {known : FetchId → Option Answer} {job : Job} {s : Station}
    {file : Path} {user : UserId} {tick : TickData} (hu : UserId.ofPath file = .ok user)
    (hc : s.cache.get? file = none) (ht : tickFor known job.pending s file user = some tick) :
    job.Gives known file tick := by
  refine ⟨user, hu, ?_⟩
  unfold tickFor at ht
  rw [hc] at ht
  cases hp : job.pending.get? user with
  | none =>
    rw [hp] at ht
    exact (Option.some.inj ht).symm
  | some request =>
    rw [hp] at ht
    obtain ⟨answer, ha, rfl⟩ := Option.map_eq_some_iff.1 ht
    exact ⟨answer, ha, rfl⟩

namespace Worker

variable {s s' : Station} {w w' : Worker} {known answer? : FetchId → Option Answer} {job : Job}
  {file : Path} {d : Delivery} {answer : Answer}

/-- What a worker has before it and what it knows come from its job. -/
structure Informed (known : FetchId → Option Answer) (job : Job) (w : Worker) : Prop where
  ahead : ∀ file ∈ w.ahead, file ∈ job.files
  knows : Knows known job.pending w.correlations
  awaits : ∀ file user request, w.stage = .awaiting file user request →
    UserId.ofPath file = .ok user ∧ job.pending.get? user = some request

/-- A worker begins with what its job tells it. -/
theorem informed_start (known : FetchId → Option Answer) (job : Job) :
    (Worker.start job.files job.folders job.pending).Informed known job where
  ahead file hf := hf
  knows := by
    have hstart : Stands (fun (_ : Unit) _ _ => none) known job.pending job.files ()
        (.start .standard) [] job.files [] _ := stands_start () _ job.files job.folders
    exact hstart.knows
  awaits _ _ _ hs := by cases hs

/-! ## Files that lie ahead -/

/-- Behind a file that is done lie those not begun. -/
theorem ahead_handled (w : Worker) (file : Path) (report : Report) :
    (w.handled file report).ahead = w.todo := by
  simp [ahead, Stage.file?]

/-- A stage at a file has that file before it, and then those not begun. -/
theorem ahead_of_stage {stage : Stage} (h : stage.file? = some file) :
    ({ w with stage } : Worker).ahead = file :: w.todo := by
  show stage.file?.toList ++ w.todo = _
  rw [h]
  rfl

/-- A worker that is at a file has that file before it, and then those not begun. -/
theorem ahead_eq (h : w.stage.file? = some file) : w.ahead = file :: w.todo :=
  ahead_of_stage (w := w) h

/-- Between two files only those not begun lie ahead. -/
theorem ahead_idle (hs : w.stage = .idle) : w.ahead = w.todo := by
  simp [ahead, hs, Stage.file?]

/-- The files before a worker after its own step: it goes on with the first of them, or is done
with it, because it holds no user id, because it cannot be read, or because it is delivered. -/
theorem Advances.ahead (ha : Advances answer? s w s' w') :
    w'.ahead = w.ahead ∨ ∃ file, w.ahead = file :: w'.ahead ∧
      ((∃ why, UserId.ofPath file = .error why) ∨
        (∃ d, w.stage = .reading d ∧ d.file = file ∧ s'.cache = s.cache.put file d.tick) ∨
        w.stage.clears? = some file) := by
  cases ha with
  | @begin file later _ hs ht hb =>
    rw [ahead_idle hs, ht]
    cases hb with
    | skip hu =>
      rw [ahead_handled]
      exact Or.inr ⟨file, rfl, Or.inl ⟨_, hu⟩⟩
    | read => exact Or.inl rfl
    | await => exact Or.inl rfl
  | finish hs ht =>
    rw [ahead_idle hs, ht]
    exact Or.inl (by simp [Worker.ahead, Stage.file?])
  | resolve hs => exact Or.inl (by rw [ahead_eq (w := w) (by rw [hs]; rfl)]; rfl)
  | read hs => exact Or.inl (by rw [ahead_eq (w := w) (by rw [hs]; rfl)]; rfl)
  -- a file that cannot be read is done with for now, and its tick is kept
  | @unread d _ hs =>
    refine Or.inr ⟨d.file, ?_, Or.inr (Or.inl ⟨d, hs, rfl, rfl⟩)⟩
    rw [ahead_eq (w := w) (by rw [hs]; rfl)]
    show _ = d.file :: (w.handled d.file _).ahead
    rw [ahead_handled]
  | close hs => exact Or.inl (by rw [ahead_eq (w := w) (by rw [hs]; rfl)]; rfl)
  | @clear file verdict hs =>
    refine Or.inr ⟨file, ?_, Or.inr (Or.inr (by rw [hs]; rfl))⟩
    rw [ahead_eq (w := w) (by rw [hs]; rfl), ahead_handled]

/-- The files before a worker after an exchange: it goes on with the first of them, or has failed
to deliver it, or is dead. -/
theorem Receives.ahead (hr : Receives s w answer s' w') :
    w'.ahead = w.ahead ∨ (∃ d, w.stage.delivers? = some d ∧ w.ahead = d.file :: w'.ahead ∧
      s'.cache = s.cache.put d.file d.tick) ∨ (w'.stage = .dead ∧ w'.ahead = w.todo) := by
  -- giving up on a file is the same for all exchanges that fail
  have hfail : ∀ {d}, w.stage.delivers? = some d →
      w.ahead = d.file :: (Worker.fail s w d).2.ahead := fun {d} hd => by
    show _ = d.file :: (w.handled d.file _).ahead
    rw [ahead_eq (Stage.file?_of_delivers hd), ahead_handled]
  cases hr with
  | created hs =>
    rw [ahead_of_stage (file?_sendFrom _ _ _ _), ahead_eq (w := w) (by rw [hs]; rfl)]
    exact Or.inl rfl
  | @unnamed d _ _ _ hs =>
    have hd : w.stage.delivers? = some d := by rw [hs]; rfl
    exact Or.inr (Or.inl ⟨d, hd, hfail hd, rfl⟩)
  | sent hs =>
    rw [ahead_of_stage (file?_sendFrom _ _ _ _), ahead_eq (w := w) (by rw [hs]; rfl)]
    exact Or.inl rfl
  | verdict hs => exact Or.inl (by rw [ahead_eq (w := w) (by rw [hs]; rfl)]; rfl)
  | @broken d _ hs =>
    have hd : w.stage.delivers? = some d := by
      rcases hs with ⟨_, hs⟩ | ⟨_, _, _, _, hs⟩ | ⟨_, _, hs⟩ <;> rw [hs] <;> rfl
    exact Or.inr (Or.inl ⟨d, hd, hfail hd, rfl⟩)
  | died => exact Or.inr (Or.inr ⟨rfl, rfl⟩)

/-- No file comes to lie ahead of a worker by its own step. -/
theorem Advances.ahead_subset (ha : Advances answer? s w s' w') (hf : file ∈ w'.ahead) :
    file ∈ w.ahead := by
  rcases ha.ahead with he | ⟨_, he, -⟩
  · exact he ▸ hf
  · exact he ▸ List.mem_cons_of_mem _ hf

/-- None does by an exchange. -/
theorem Receives.ahead_subset (hr : Receives s w answer s' w') (hf : file ∈ w'.ahead) :
    file ∈ w.ahead := by
  rcases hr.ahead with he | ⟨_, -, he, -⟩ | ⟨-, he⟩
  · exact he ▸ hf
  · exact he ▸ List.mem_cons_of_mem _ hf
  · exact List.mem_append_right _ (he ▸ hf)

/-! ## What a worker knows -/

/-- A worker comes to await a tick only of a file that it begins and that none is remembered
for. -/
theorem Advances.awaits {user : UserId} {request : PendingTick}
    (ha : Advances answer? s w s' w') (hs : w'.stage = .awaiting file user request) :
    file ∈ w.ahead ∧ s.cache.get? file = none ∧ UserId.ofPath file = .ok user ∧
      w.correlations.get? user = some (.pending request) := by
  cases ha with
  | begin hi ht hb =>
    cases hb with
    | skip => simp at hs
    | read => cases hs
    | await hu hc hp =>
      cases hs
      rw [ahead_idle hi, ht]
      exact ⟨List.mem_cons_self, hc, hu, hp⟩
  | unread => simp at hs
  | clear => simp at hs
  | finish | resolve | read | close => cases hs

/-- No exchange makes a worker wait for a tick. -/
theorem Receives.ne_awaiting (hr : Receives s w answer s' w') (file : Path) (user : UserId)
    (request : PendingTick) : w'.stage ≠ .awaiting file user request := by
  cases hr with
  | @created d chunks _ _ => cases chunks <;> exact Stage.noConfusion
  | @sent d _ _ _ _ later => cases later <;> exact Stage.noConfusion
  | unnamed | broken => simp
  | verdict | died => exact Stage.noConfusion

/-- A worker that makes a step of its own knows no more than its job's requests give. -/
theorem Informed.advance (hi : w.Informed known job)
    (hle : ∀ id a, answer? id = some a → known id = some a) (ha : Advances answer? s w s' w') :
    w'.Informed known job where
  ahead file hf := hi.ahead file (ha.ahead_subset hf)
  knows := by
    cases ha with
    | begin _ _ hb =>
      cases hb with
      | skip =>
        rw [handled_correlations]
        exact hi.knows
      | read => exact hi.knows
      | await => exact hi.knows
    | resolve hs hans => exact hi.knows.resolve (hi.awaits _ _ _ hs).2 (hle _ _ hans)
    | unread =>
      show Knows known job.pending (w.handled _ _).correlations
      rw [handled_correlations]
      exact hi.knows
    | clear =>
      rw [handled_correlations]
      exact hi.knows
    | finish | read | close => exact hi.knows
  awaits file user request hs := by
    obtain ⟨-, -, hu, hp⟩ := ha.awaits hs
    exact ⟨hu, hi.knows.pending_of hp⟩

/-- A worker learns nothing about ticks in an exchange. -/
theorem Informed.receive (hi : w.Informed known job) (hr : Receives s w answer s' w') :
    w'.Informed known job where
  ahead file hf := hi.ahead file (hr.ahead_subset hf)
  knows := by
    cases hr with
    | unnamed | broken =>
      show Knows known job.pending (w.handled _ _).correlations
      rw [handled_correlations]
      exact hi.knows
    | created | sent | verdict | died => exact hi.knows
  awaits file user request hs := absurd hs (hr.ne_awaiting file user request)

/-! ## Deliveries -/

/-- A delivery has its tick from the cache, or from the requests of the job. -/
theorem Informed.delivers (hi : w.Informed known job)
    (hle : ∀ id a, answer? id = some a → known id = some a) (ha : Advances answer? s w s' w')
    (hd : w'.stage.delivers? = some d) :
    w.stage.delivers? = some d ∨ s.cache.get? d.file = some d.tick ∨
      (d.file ∈ w.ahead ∧ job.Gives known d.file d.tick ∧
        (s.cache.get? d.file = none ∨
          ∃ user request, w.stage = .awaiting d.file user request)) := by
  cases ha with
  | @begin file later _ hs ht hb =>
    cases hb with
    | skip => simp [Stage.delivers?] at hd
    | @read user name tick hu hn htick =>
      obtain rfl := Option.some.inj hd
      rcases htick with hc | ⟨hc, htick⟩
      · exact Or.inr (Or.inl hc)
      · -- nothing is remembered, so it is what the worker knows of the user, or nothing
        refine Or.inr (Or.inr ⟨?_, ?_, Or.inl hc⟩)
        · rw [ahead_idle hs, ht]
          exact List.mem_cons_self
        · exact Job.gives_of_tickFor hu hc (hi.knows.tick_of (Or.inr ⟨hc, htick⟩))
    | await => cases hd
  | finish => cases hd
  | @resolve file user request answer hs hans =>
    obtain rfl := Option.some.inj hd
    obtain ⟨hu, hp⟩ := hi.awaits _ _ _ hs
    refine Or.inr (Or.inr ⟨mem_ahead_of_stage (by rw [hs]; rfl), ⟨user, hu, ?_⟩,
      Or.inr ⟨user, request, hs⟩⟩)
    rw [hp]
    exact ⟨answer, hle _ _ hans, rfl⟩
  | read hs => exact Or.inl (by rw [hs]; exact hd)
  | unread => simp [Stage.delivers?] at hd
  | close hs => exact Or.inl (by rw [hs]; exact hd)
  | clear => simp [Stage.delivers?] at hd

/-- What is delivered after an exchange was being delivered before it. -/
theorem Receives.delivers (hr : Receives s w answer s' w') (hd : w'.stage.delivers? = some d) :
    w.stage.delivers? = some d := by
  cases hr with
  | created hs =>
    rw [Stage.delivers_sendFrom] at hd
    rw [hs]
    exact hd
  | sent hs =>
    rw [Stage.delivers_sendFrom] at hd
    rw [hs]
    exact hd
  | unnamed | broken => simp [Stage.delivers?] at hd
  | verdict | died => cases hd

/-! ## The cache -/

/-- A worker's own step remembers at most the tick of the file that it could not read. -/
theorem Advances.cache (ha : Advances answer? s w s' w') :
    s'.cache = s.cache ∨
      ∃ d, w.stage.delivers? = some d ∧ s'.cache = s.cache.put d.file d.tick := by
  cases ha with
  | @unread d _ hs => exact Or.inr ⟨d, by rw [hs]; rfl, rfl⟩
  | clear =>
    left
    unfold Station.delete
    split <;> rfl
  | begin | finish | resolve | read | close => exact Or.inl rfl

/-- The end of an exchange leaves the cache alone, remembers the tick of the delivery that
failed, or forgets that of the one that the verdict is on. -/
theorem Receives.cache (hr : Receives s w answer s' w') :
    s'.cache = s.cache ∨
      (∃ d, w.stage.delivers? = some d ∧ s'.cache = s.cache.put d.file d.tick) ∨
      ∃ d : Delivery, w'.stage.clears? = some d.file ∧
        s'.cache = s.cache.erase d.file := by
  cases hr with
  | @unnamed d _ _ _ hs => exact Or.inr (Or.inl ⟨d, by rw [hs]; rfl, rfl⟩)
  | @verdict d _ _ _ hs => exact Or.inr (Or.inr ⟨d, rfl, rfl⟩)
  | @broken d _ hs =>
    refine Or.inr (Or.inl ⟨d, ?_, rfl⟩)
    rcases hs with ⟨_, hs⟩ | ⟨_, _, _, _, hs⟩ | ⟨_, _, hs⟩ <;> rw [hs] <;> rfl
  | created | sent | died => exact Or.inl rfl

/-- What is not in the cache after another tick was put there, was not there before. -/
theorem none_of_put {cache : RetryCache} (hc : (cache.put d.file d.tick).get? file = none) :
    (d.file == file) = false ∧ cache.get? file = none := by
  rw [Table.get?_put] at hc
  cases he : d.file == file with
  | true => simp [he] at hc
  | false => exact ⟨rfl, by simpa [he] using hc⟩

/-- A worker's own step forgets nothing. -/
theorem Advances.none_before (ha : Advances answer? s w s' w')
    (hc : s'.cache.get? file = none) : s.cache.get? file = none := by
  rcases ha.cache with hsame | ⟨d, -, hput⟩
  · rwa [hsame] at hc
  · rw [hput] at hc
    exact (none_of_put hc).2

/-- What an exchange makes a worker forget is the file that the verdict is on. -/
theorem Receives.none_before (hr : Receives s w answer s' w')
    (hc : s'.cache.get? file = none) : s.cache.get? file = none ∨
      ∃ d : Delivery, w'.stage.clears? = some d.file ∧ (d.file == file) = true := by
  rcases hr.cache with hsame | ⟨d, -, hput⟩ | ⟨d, hclears, herase⟩
  · rw [hsame] at hc
    exact Or.inl hc
  · rw [hput] at hc
    exact Or.inl (none_of_put hc).2
  · rw [herase, Table.get?_erase] at hc
    cases he : d.file == file with
    | true => exact Or.inr ⟨d, hclears, he⟩
    | false => exact Or.inl (by simpa [he] using hc)

/-- A worker that ends has no file before it. -/
theorem Advances.ahead_of_ended (ha : Advances answer? s w s' w') (hs : w'.stage = .ended) :
    w.ahead = [] := by
  obtain ⟨hidle, htodo, -, -⟩ := ha.of_ended hs
  rw [ahead_idle hidle, htodo]

/-- A file that a worker had before it and that is neither remembered nor judged is still before
the worker. -/
theorem Advances.still_ahead {user : UserId} (ha : Advances answer? s w s' w')
    (hf : file ∈ w.ahead) (hu : UserId.ofPath file = .ok user)
    (hc : s'.cache.get? file = none) (hclears : w.stage.clears? ≠ some file) :
    file ∈ w'.ahead := by
  rcases ha.ahead with hsame | ⟨first, hcons, hwhy⟩
  · rwa [hsame]
  rw [hcons] at hf
  rcases List.mem_cons.1 hf with rfl | hlater
  · rcases hwhy with ⟨why, herror⟩ | ⟨d, -, rfl, hput⟩ | hverdict
    · rw [hu] at herror
      cases herror
    · rw [hput] at hc
      have hne := (none_of_put hc).1
      rw [Path.beq_refl] at hne
      cases hne
    · exact absurd hverdict hclears
  · exact hlater

/-- After an exchange that the worker has survived, a file lies before it as before, unless its
tick was put into the cache. -/
theorem Receives.still_ahead (hr : Receives s w answer s' w') (hf : file ∈ w.ahead)
    (hc : s'.cache.get? file = none) (hlives : w'.stage ≠ .dead) : file ∈ w'.ahead := by
  rcases hr.ahead with hsame | ⟨d, -, hcons, hput⟩ | ⟨hdead, -⟩
  · rwa [hsame]
  · rw [hcons] at hf
    rcases List.mem_cons.1 hf with rfl | hlater
    · rw [hput] at hc
      have hne := (none_of_put hc).1
      rw [Path.beq_refl] at hne
      cases hne
    · exact hlater
  · exact absurd hdead hlives

/-- No step of a worker's own brings a verdict. -/
theorem Advances.clears (ha : Advances answer? s w s' w') : w'.stage.clears? = none := by
  cases ha with
  | begin _ _ hb =>
    cases hb with
    | skip => simp [Stage.clears?]
    | read => rfl
    | await => rfl
  | unread | clear => simp [Stage.clears?]
  | finish | resolve | read | close => rfl

/-- A file is to be deleted only after a verdict on it. -/
theorem Receives.verdict_of_clears {request : Request} (hr : Receives s w answer s' w')
    (hreq : w.stage.request? = some request) (hc : w'.stage.clears? = some file) :
    w.stage.file? = some file ∧ Exchange.IsVerdict ⟨file, request, answer⟩ := by
  cases hr with
  | @created d chunks _ _ => cases chunks <;> cases hc
  | @sent d _ _ _ _ later => cases later <;> cases hc
  | @verdict d fileId topic text hs =>
    rw [hs] at hreq ⊢
    exact ⟨hc, ⟨d.name, topic, fileId, d.tick, (Option.some.inj hreq).symm⟩, text, rfl⟩
  | unnamed | broken => simp [Stage.clears?] at hc
  | died => cases hc

end Worker

end PushToTalk.Upload
