import PushToTalk.Proofs.Chunk
import PushToTalk.Proofs.Table
import PushToTalk.Proofs.Upload.Transcript

/-
  The protocol of a pass.

  This module says what a pass is supposed to do, without saying how a worker does it.  A pass takes
  up its files in order.  `Handles` tells what is done with one file, from the station that is found
  to the station that is left: which tick and name the recording is filed under, what is said to the
  backend, and what becomes of the file.  `Passes` puts such dealings in a row.  A pass either comes
  to its end in this way, or halts at a file because a tick is not there, the backend holds an
  answer back, or the worker dies (`Halts`).

  1. **One file** — its fate is read off the exchanges (`fateOf`): it failed with the first failure,
     or because it was given no id, and otherwise the answer to the last request is the verdict.
     Until then there is no fate (`fateOf_opened`).

  2. **Sending** — `Sends` says that the exchanges go by the script, under the topic that was in
     force when the last chunk was through.  It grows with each exchange (`sends_nil`,
     `sends_opened`, `sends_next`).

  3. **The report** — the files that fared alike, in the order in which they were dealt with.

  The backend is any function that may change the station while it answers, so that the settings and
  the disk are free to change during a pass, except where a statement says otherwise.

  Main statements: `fateOf_opened`, `sends_opened` and `sends_next`.
-/

namespace PushToTalk.Upload

/-! ## One file -/

/-- What becomes of a file. -/
inductive Fate
  | skipped
  | failed
  | uploaded
  | rejected
  deriving DecidableEq, Repr

/-- What becomes of a file of `count` chunks after the exchanges about it; nothing as long as they
are not at an end.  They are when one has failed, when the backend gave no id, and when the whole
script was answered. -/
def fateOf (count : Nat) (xs : List Exchange) : Option Fate :=
  match xs.getLast?.map Exchange.answer with
  | some (.fault _) => some .failed
  | some (.body text) =>
    if xs.length = count + 2 then some (if Text.allBlank text then .uploaded else .rejected)
    else if xs.length = 1 then
      match parseCreated text with
      | .ok _ => none
      | .error _ => some .failed
    else none
  | some .death | none => none

/-- How a worker leaves the station behind a file. -/
def Fate.leaves (s : Station) (file : Path) (tick : TickData) : Fate → Station
  | .skipped => s
  | .failed => s.remember file tick
  | .uploaded | .rejected => (s.forget file).delete file

/-- The tick that a file of a user is filed under: the one remembered from an earlier pass, else
the one that was requested when the user spoke, else none. -/
def tickFor (answer? : FetchId → Option Answer) (pending : PendingTicks) (s : Station)
    (file : Path) (user : UserId) : Option TickData :=
  match s.cache.get? file with
  | some tick => some tick
  | none =>
    match pending.get? user with
    | some request => (answer? request.fetch).map TickData.ofAnswer
    | none => some .unknown

/-- The name that a user's recordings are filed under. -/
def filedUnder (pending : PendingTicks) (s : Station) (user : UserId) : String :=
  match pending.get? user with
  | some request => request.name
  | none => s.nameOf user

section Fates

variable {count : Nat} {xs : List Exchange} {x : Exchange}

/-- Without an exchange nothing has become of the file. -/
theorem fateOf_nil (count : Nat) : fateOf count [] = none := rfl

/-- A failure is the end, whichever request it was that failed. -/
theorem fateOf_fault {f : Fault} (hx : x.answer = .fault f) :
    fateOf count (xs ++ [x]) = some .failed := by
  simp [fateOf, hx]

/-- An answer to the creation that names no file is the end, as a failure. -/
theorem fateOf_unnamed {text : String} {why : Misread} (hx : x.answer = .body text)
    (hp : parseCreated text = .error why) : fateOf count [x] = some .failed := by
  simp [fateOf, hx, hp]

/-- The whole script was answered. -/
theorem fateOf_verdict {text : String} (hl : xs.length = count + 1) (hx : x.answer = .body text) :
    fateOf count (xs ++ [x]) = some (if Text.allBlank text then .uploaded else .rejected) := by
  simp [fateOf, hx, hl]

/-- As long as no more than chunks were taken nothing has become of the file. -/
theorem fateOf_opened {file : Path} {chunks : List Bytes} {fileId : String} {index : Nat}
    (h : Opened file chunks fileId index xs) : fateOf chunks.length xs = none := by
  have hl := h.length
  have hle := h.enough
  obtain ⟨first, rest, text, rfl, ha, hp⟩ := h.named
  -- the fate hangs on the last answer, and there is one
  obtain ⟨last, hlast⟩ : ∃ last, (first :: rest).getLast? = some last := by
    simp [List.getLast?_cons]
  have hmem : last ∈ first :: rest := List.mem_of_getLast? hlast
  obtain ⟨said, hsaid⟩ := h.answered last hmem
  have hne : ¬ (first :: rest).length = chunks.length + 2 := by omega
  simp only [fateOf, hlast, Option.map_some, hsaid, if_neg hne]
  split
  · next h1 =>
    -- the only answer is the one with the id
    have hr : rest = [] := by simpa using h1
    subst hr
    obtain rfl : first = last := by simpa using hlast
    rw [ha] at hsaid
    obtain rfl := Answer.body.inj hsaid
    rw [hp]
  · rfl

end Fates

variable {τ : Type} (backend : Backend τ) (answer? : FetchId → Option Answer)
  (pending : PendingTicks)

/-- The backend is asked one thing after the other, and changes itself and the station as it
answers. -/
inductive Talks (t : τ) (s : Station) : List Exchange → τ → Station → Prop
  | nil : Talks t s [] t s
  | snoc {xs : List Exchange} {x : Exchange} {t₁ t₂ : τ} {s₁ s₂ : Station}
      (h : Talks t s xs t₁ s₁) (hx : backend t₁ s₁ x.request = some (t₂, s₂, x.answer)) :
      Talks t s (xs ++ [x]) t₂ s₂

/-- The file is read, cut into chunks and sent by the script, under the topic that is in force
when all chunks are through. The exchanges may be any first part of that, so this also describes
a worker in the middle of it. -/
structure Sends (t : τ) (s : Station) (file : Path) (tick : TickData) (chunks : List Bytes)
    (xs : List Exchange) (t' : τ) (s' : Station) : Prop where
  cuts : ∃ bytes, s.disk.read file = .ok bytes ∧ chunks.flatten = bytes ∧
    ∀ chunk ∈ chunks, 1 ≤ chunk.length ∧ chunk.length ≤ 102400
  follows : ∃ user topic fileId, UserId.ofPath file = .ok user ∧
    tickFor answer? pending s file user = some tick ∧
    Transcript file chunks (filedUnder pending s user) topic fileId tick xs ∧
    ∀ front x, xs = front ++ [x] → front.length = chunks.length + 1 →
      ∃ t₁ s₁, Talks backend t s front t₁ s₁ ∧ topic = s₁.settings.topic
  talks : Talks backend t s xs t' s'

/-- A worker's dealings with a file. -/
structure Attempt where
  file : Path
  /-- What was said to the backend about the file, and what it answered. -/
  exchanges : List Exchange
  fate : Fate
  deriving Repr

/-- What a worker does with a file, from the station that it finds to the one that it leaves. -/
inductive Handles (t : τ) (s : Station) : Attempt → τ → Station → Prop
  /-- The name of the file holds no user id. -/
  | skipped {file : Path} {why : Misread} (hu : UserId.ofPath file = .error why) :
      Handles t s ⟨file, [], .skipped⟩ t s
  /-- The file cannot be read. -/
  | unread {file : Path} {user : UserId} {tick : TickData} {why : Disk.Trouble}
      (hu : UserId.ofPath file = .ok user) (ht : tickFor answer? pending s file user = some tick)
      (hr : s.disk.read file = .error why) :
      Handles t s ⟨file, [], .failed⟩ t (Fate.failed.leaves s file tick)
  /-- The file is sent. -/
  | sent {file : Path} {tick : TickData} {chunks : List Bytes} {xs : List Exchange} {fate : Fate}
      {t' : τ} {s' : Station} (h : Sends backend answer? pending t s file tick chunks xs t' s')
      (hf : fateOf chunks.length xs = some fate) :
      Handles t s ⟨file, xs, fate⟩ t' (fate.leaves s' file tick)

/-- One file after the other. -/
inductive Passes (t : τ) (s : Station) : List Attempt → τ → Station → Prop
  | nil : Passes t s [] t s
  | snoc {attempts : List Attempt} {a : Attempt} {t₁ t₂ : τ} {s₁ s₂ : Station}
      (h : Passes t s attempts t₁ s₁) (ha : Handles backend answer? pending t₁ s₁ a t₂ s₂) :
      Passes t s (attempts ++ [a]) t₂ s₂

/-- Why a pass does not get on with a file. -/
inductive Halts (t : τ) (s : Station) (file : Path) (xs : List Exchange) (c : Course τ) : Prop
  /-- The tick was requested and is not there. -/
  | tick {user : UserId} {request : PendingTick} (hu : UserId.ofPath file = .ok user)
      (hp : pending.get? user = some request) (ha : answer? request.fetch = none) (hx : xs = [])
  /-- The backend holds its answer back. -/
  | held {tick : TickData} {chunks : List Bytes} {request : Request}
      (h : Sends backend answer? pending t s file tick chunks xs c.backend c.station)
      (hf : fateOf chunks.length xs = none) (hq : c.worker.stage.request? = some request)
      (hb : backend c.backend c.station request = none)
  /-- The worker has died. -/
  | died {tick : TickData} {chunks : List Bytes}
      (h : Sends backend answer? pending t s file tick chunks xs c.backend c.station)
      (hs : c.worker.stage = .dead) (hx : xs.getLast?.map Exchange.answer = some .death)

section Sending

variable {backend : Backend τ} {answer? : FetchId → Option Answer} {pending : PendingTicks}
  {t t₁ t₂ : τ} {s s₁ s₂ : Station} {xs : List Exchange}

/-- The delivery is what the worker knows of its file. -/
def Delivery.Filed (answer? : FetchId → Option Answer) (pending : PendingTicks) (s : Station)
    (d : Delivery) : Prop :=
  ∃ user, UserId.ofPath d.file = .ok user ∧ tickFor answer? pending s d.file user = some d.tick ∧
    d.name = filedUnder pending s user

/-- The chunks of a file make up the file, and none of them is empty or too long. -/
theorem cuts_ofFile {d : Disk} {p : Path} {bytes : Bytes} (h : d.read p = .ok bytes) :
    ∃ b, d.read p = .ok b ∧ (Chunk.ofFile bytes).flatten = b ∧
      ∀ chunk ∈ Chunk.ofFile bytes, 1 ≤ chunk.length ∧ chunk.length ≤ 102400 :=
  ⟨bytes, h, Chunk.flatten_ofFile bytes, fun _ hc => Chunk.length_of_mem_ofFile hc⟩

/-- Before the first exchange nothing was said. -/
theorem sends_nil {d : Delivery} {bytes : Bytes} (hd : d.Filed answer? pending s)
    (hr : s.disk.read d.file = .ok bytes) :
    Sends backend answer? pending t s d.file d.tick (Chunk.ofFile bytes) [] t s := by
  obtain ⟨user, hu, ht, hn⟩ := hd
  refine ⟨cuts_ofFile hr, ⟨user, "", "", hu, ht, ⟨?_, ?_, ?_, ?_⟩, ?_⟩, .nil⟩
  · exact fun x hx => absurd hx List.not_mem_nil
  · exact List.nil_prefix
  · exact fun x hx => absurd hx List.not_mem_nil
  · exact fun hl => absurd hl (by decide)
  · exact fun front x hx => absurd hx.symm (by simp)

/-- What was said as long as chunks were taken. -/
theorem sends_opened {d : Delivery} {bytes : Bytes} {fileId : String} {index : Nat}
    (hd : d.Filed answer? pending s) (hr : s.disk.read d.file = .ok bytes)
    (ho : Opened d.file (Chunk.ofFile bytes) fileId index xs)
    (ht : Talks backend t s xs t₁ s₁) :
    Sends backend answer? pending t s d.file d.tick (Chunk.ofFile bytes) xs t₁ s₁ := by
  obtain ⟨user, hu, htick, -⟩ := hd
  refine ⟨cuts_ofFile hr, ⟨user, "", fileId, hu, htick, ho.transcript, ?_⟩, ht⟩
  -- the topic is not in it yet, because fewer exchanges were made than there are chunks and a
  -- creation
  intro front x hx hl
  have hlength := ho.length
  have hle := ho.enough
  rw [hx, List.length_append, List.length_singleton] at hlength
  omega

/-- What was said with one exchange more. -/
theorem sends_next {d : Delivery} {bytes : Bytes} (topic fileId : String) {request : Request}
    {answer : Answer} (hd : d.Filed answer? pending s) (hr : s.disk.read d.file = .ok bytes)
    (ht : Talks backend t s xs t₁ s₁) (hb : backend t₁ s₁ request = some (t₂, s₂, answer))
    (hx : Transcript d.file (Chunk.ofFile bytes) d.name topic fileId d.tick
      (xs ++ [⟨d.file, request, answer⟩]))
    (htopic : xs.length = (Chunk.ofFile bytes).length + 1 → topic = s₁.settings.topic) :
    Sends backend answer? pending t s d.file d.tick (Chunk.ofFile bytes)
      (xs ++ [⟨d.file, request, answer⟩]) t₂ s₂ := by
  obtain ⟨user, hu, htick, hn⟩ := hd
  refine ⟨cuts_ofFile hr, ⟨user, topic, fileId, hu, htick, hn ▸ hx, ?_⟩, .snoc ht hb⟩
  intro front x he hl
  obtain ⟨rfl, -⟩ := List.append_inj' he rfl
  exact ⟨t₁, s₁, ht, htopic hl⟩

end Sending

/-! ## The report -/

/-- The files of a report that fared alike. -/
def Report.of (report : Report) : Fate → List Path
  | .skipped => report.skipped
  | .failed => report.failed
  | .uploaded => report.uploaded
  | .rejected => report.rejected

/-- The files that fared alike, in order. -/
def faring (fate : Fate) (attempts : List Attempt) : List Path :=
  (attempts.filter fun a => a.fate = fate).map (·.file)

/-- The last file is among those that fared alike, or not. -/
theorem faring_snoc (fate : Fate) (attempts : List Attempt) (a : Attempt) :
    faring fate (attempts ++ [a]) =
      if a.fate = fate then faring fate attempts ++ [a.file] else faring fate attempts := by
  unfold faring
  by_cases h : a.fate = fate <;> simp [List.filter_append, h]

end PushToTalk.Upload
