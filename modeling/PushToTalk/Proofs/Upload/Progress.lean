import PushToTalk.Proofs.Chunk
import PushToTalk.Proofs.Upload.Job
import PushToTalk.Proofs.Upload.Transcript
import PushToTalk.Proofs.Upload.Verdict

/-
  How far a worker is with one file.

  A recording is deleted when the backend has given its verdict on it, and never before.  That is
  only safe if by then the backend has been given all of it.  While a worker sends a file, the
  exchanges that were made so far hold everything that was said about it, chunk by chunk; so when
  the backend gives its verdict the whole script was answered, and the chunks in it are the file.

  1. **Delivered** — the log holds the exchanges of a whole script about the file, in order, though
     other exchanges may have come in between (`Delivered`).

  2. **Told** — what was said by the time the worker is in a certain stage (`Stage.Told`).  With the
     last answer it becomes a delivery (`Opened.delivered`).

  3. **Carrying** — `Carries` is the invariant of a worker with respect to one file, kept by its own
     steps as long as reading the file gives what it holds (`Carries.advance`) and by the ends of
     its exchanges, the last of which delivers (`Carries.receive`).

  Main statements: `Carries.advance` and `Carries.receive`.
-/

namespace PushToTalk.Upload

variable {file file' : Path} {node : Disk.Node} {log log' : List Exchange} {bytes : Bytes}
  {chunks : List Bytes} {xs : List Exchange}

/-- The whole script of a file was answered: its creation with the number of its chunks, every
chunk, and the request that puts it into the chat.  The chunks are the file. -/
def Delivered (file : Path) (bytes : Bytes) (log : List Exchange) : Prop :=
  ∃ chunks name topic fileId tick xs, xs.Sublist log ∧ chunks.flatten = bytes ∧
    xs.map Exchange.request = script chunks name topic fileId tick ∧
    (∀ x ∈ xs, x.file = file ∧ ∃ text, x.answer = .body text) ∧
    ∃ first rest text, xs = first :: rest ∧ first.answer = .body text ∧
      parseCreated text = .ok fileId

/-- What is said later does not undo a delivery. -/
theorem Delivered.mono (h : Delivered file bytes log) (hl : log.Sublist log') :
    Delivered file bytes log' := by
  obtain ⟨chunks, name, topic, fileId, tick, xs, hx, hrest⟩ := h
  exact ⟨chunks, name, topic, fileId, tick, xs, hx.trans hl, hrest⟩

/-- What was said about the file that a worker sends. -/
def Stage.Told (chunks : List Bytes) (xs : List Exchange) : Stage → Prop
  | .creating _ cs => cs = chunks ∧ xs = []
  | .sending d fileId index chunk later =>
    chunks.drop index = chunk :: later ∧ Opened d.file chunks fileId index xs
  | .closing d fileId | .finalizing d fileId _ =>
    Opened d.file chunks fileId chunks.length xs
  | _ => True

/-- Before the chunks that are left, all others were told; where none is left all of them were. -/
theorem told_sendFrom {d : Delivery} {fileId : String} {index : Nat} {left : List Bytes}
    (ho : Opened d.file chunks fileId index xs) (hd : chunks.drop index = left) :
    (sendFrom d fileId index left).Told chunks xs := by
  cases left with
  | nil =>
    have hle : chunks.length ≤ index := List.drop_eq_nil_iff.1 hd
    obtain rfl : index = chunks.length := Nat.le_antisymm ho.enough hle
    exact ho
  | cons chunk later => exact ⟨hd, ho⟩

/-- The last answer completes the script. -/
theorem Opened.delivered {name topic fileId text : String} {tick : TickData}
    (ho : Opened file (Chunk.ofFile bytes) fileId (Chunk.ofFile bytes).length xs) :
    Delivered file bytes
      (xs ++ [⟨file, finalizeRequest name topic fileId tick, .body text⟩]) := by
  -- all chunks were taken, so one request is left in the script
  refine ⟨Chunk.ofFile bytes, name, topic, fileId, tick, _, List.Sublist.refl _,
    Chunk.flatten_ofFile bytes, ?_, fun x hx => ?_, ?_⟩
  · rw [List.map_append, ho.requests, script, ← length_opening (Chunk.ofFile bytes) fileId,
      List.take_length, closing_eq]
    rfl
  · rcases List.mem_append.1 hx with hold | hnew
    · exact ⟨ho.files x hold, ho.answered x hold⟩
    · obtain rfl := List.mem_singleton.1 hnew
      exact ⟨rfl, text, rfl⟩
  · obtain ⟨first, rest, said, rfl, ha, hp⟩ := ho.named
    exact ⟨first, rest ++ [_], said, rfl, ha, hp⟩

namespace Worker

/-- How a worker stands to a file that holds `node`, after the exchanges in `log`. -/
structure Carries (file : Path) (node : Disk.Node) (log : List Exchange) (w : Worker) :
    Prop where
  /-- It only takes up a file whose name holds a user id. -/
  user : w.stage.file? = some file → ∃ user, UserId.ofPath file = .ok user
  told : w.stage.sends? = some file → ∃ bytes, node = .file bytes ∧
    ∃ xs, xs.Sublist log ∧ w.stage.Told (Chunk.ofFile bytes) xs
  /-- There is no verdict on the file yet. -/
  noVerdict : w.stage.clears? ≠ some file

variable {w w' : Worker} {s s' : Station}

/-- What is said about other files does not matter. -/
theorem Carries.mono (h : w.Carries file node log) (hl : log.Sublist log') :
    w.Carries file node log' where
  user := h.user
  told hf := by
    obtain ⟨bytes, hn, xs, hx, ht⟩ := h.told hf
    exact ⟨bytes, hn, xs, hx.trans hl, ht⟩
  noVerdict := h.noVerdict

/-- A worker that is not at a file has not said anything about it. -/
theorem carries_of_ne (hs : w.stage.file? ≠ some file) : w.Carries file node log where
  user hf := absurd hf hs
  told hf := absurd (Stage.file?_of_sends hf) hs
  noVerdict hf := hs (Stage.file?_of_clears hf)

/-- A worker without a file has said nothing about any. -/
theorem carries_of_none (hs : w.stage.file? = none) : w.Carries file node log :=
  carries_of_ne fun hf => by
    rw [hs] at hf
    cases hf

/-- A worker that is done with a file has none in hand. -/
theorem carries_handled (w : Worker) (file' : Path) (report : Report) :
    (w.handled file' report).Carries file node log :=
  carries_of_none (by simp [Stage.file?])

/-- A step of the worker's own, as long as reading the file gives what it holds. -/
theorem Carries.advance (h : w.Carries file node log) {answer? : FetchId → Option Answer}
    (ha : Advances answer? s w s' w')
    (hread : ∀ bytes, w.stage.file? = some file → s.disk.read file = .ok bytes →
      node = .file bytes) : w'.Carries file node log := by
  cases ha with
  | begin hs ht hb =>
    cases hb with
    | skip => exact carries_handled _ _ _
    | read hu hn htick =>
      refine ⟨fun hf => ?_, fun hf => (by cases hf), fun hf => (by cases hf)⟩
      obtain rfl := Option.some.inj hf
      exact ⟨_, hu⟩
    | await hu hc hp =>
      refine ⟨fun hf => ?_, fun hf => (by cases hf), fun hf => (by cases hf)⟩
      obtain rfl := Option.some.inj hf
      exact ⟨_, hu⟩
  | finish => exact carries_of_none rfl
  | resolve hs _ =>
    refine ⟨fun hf => h.user ?_, fun hf => (by cases hf), fun hf => (by cases hf)⟩
    rw [hs]
    exact hf
  -- here the contents of the file come in: they are what the worker has read
  | @read d chunks hs hr =>
    refine ⟨fun hf => h.user (by rw [hs]; exact hf), fun hf => ?_, fun hf => (by cases hf)⟩
    obtain rfl : d.file = file := Option.some.inj hf
    obtain ⟨bytes, hbytes, rfl⟩ := Chunk.read_eq_ok.1 hr
    exact ⟨bytes, hread bytes (by rw [hs]; rfl) hbytes, [], List.nil_sublist _, rfl, rfl⟩
  | unread => exact carries_handled _ _ _
  | close hs =>
    refine ⟨fun hf => h.user (by rw [hs]; exact hf), fun hf => ?_, fun hf => (by cases hf)⟩
    obtain ⟨bytes, hn, xs, hx, ht⟩ := h.told (by rw [hs]; exact hf)
    rw [hs] at ht
    exact ⟨bytes, hn, xs, hx, ht⟩
  | clear => exact carries_handled _ _ _

/-- The end of an exchange takes the worker further, or the file is delivered. -/
theorem Carries.receive (h : w.Carries file node log) {answer : Answer} {request : Request}
    (hr : Receives s w answer s' w') (hq : w.stage.request? = some request)
    (hf' : w.stage.file? = some file') :
    w'.Carries file node (log ++ [⟨file', request, answer⟩]) ∨
      ∃ bytes, node = .file bytes ∧ w.stage.file? = some file ∧
        Delivered file bytes (log ++ [⟨file', request, answer⟩]) := by
  have hlog : log.Sublist (log ++ [⟨file', request, answer⟩]) := List.sublist_append_left _ _
  cases hr with
  | @created d chunks text fileId hs hp =>
    left
    rw [hs] at hf' hq
    obtain rfl := Option.some.inj hf'
    obtain rfl := Option.some.inj hq
    refine ⟨fun hf => h.user ?_, fun hf => ?_, ?_⟩
    · rw [file?_sendFrom] at hf
      rw [hs]
      exact hf
    · rw [Stage.sends_sendFrom] at hf
      obtain rfl := Option.some.inj hf
      obtain ⟨bytes, hn, xs, hx, ht⟩ := h.told (by rw [hs]; rfl)
      rw [hs] at ht
      obtain ⟨rfl, rfl⟩ := ht
      exact ⟨bytes, hn, _, List.sublist_append_right _ _,
        told_sendFrom (opened_create hp) rfl⟩
    · cases chunks <;> exact fun hf => by cases hf
  | unnamed => exact Or.inl (carries_handled _ _ _)
  | @sent d fileId text index chunk later hs =>
    left
    rw [hs] at hf' hq
    obtain rfl := Option.some.inj hf'
    obtain rfl := Option.some.inj hq
    refine ⟨fun hf => h.user ?_, fun hf => ?_, ?_⟩
    · rw [file?_sendFrom] at hf
      rw [hs]
      exact hf
    · rw [Stage.sends_sendFrom] at hf
      obtain rfl := Option.some.inj hf
      obtain ⟨bytes, hn, xs, hx, ht⟩ := h.told (by rw [hs]; rfl)
      rw [hs] at ht
      obtain ⟨hdrop, ho⟩ := ht
      -- one chunk more was taken, and one less is left
      refine ⟨bytes, hn, _, hx.append (List.Sublist.refl _),
        told_sendFrom (ho.snoc hdrop text) ?_⟩
      rw [← List.drop_drop, hdrop]
      rfl
    · cases later <;> exact fun hf => by cases hf
  | @verdict d fileId topic text hs =>
    rw [hs] at hf' hq
    obtain rfl := Option.some.inj hf'
    obtain rfl := Option.some.inj hq
    -- a verdict on another file says nothing about this one
    by_cases hf : d.file = file
    · right
      subst hf
      obtain ⟨bytes, hn, xs, hx, ht⟩ := h.told (by rw [hs]; rfl)
      rw [hs] at ht
      exact ⟨bytes, hn, by rw [hs]; rfl, (Opened.delivered ht).mono
        (hx.append (List.Sublist.refl _))⟩
    · left
      have hne : some d.file ≠ some file := fun he => hf (Option.some.inj he)
      exact ⟨fun he => absurd he hne, fun he => (by cases he), hne⟩
  | broken => exact Or.inl (carries_handled _ _ _)
  | died => exact Or.inl (carries_of_none rfl)

end Worker

end PushToTalk.Upload
