import PushToTalk.Proofs.Upload.Step

/-
  From reading a file to the verdict on it.

  A worker sends a file from the moment when it has read it until the backend has given its verdict.
  Whatever it says in between is about that file, and the verdict is followed by nothing but the
  deletion.  So the stages of a worker fall into three groups with respect to a file: it is not at
  the file, it sends it, or it clears it away.  The modules on whole runs count deliveries by these
  groups instead of by stages.

  1. **Groups** — `Stage.sends?` and `Stage.clears?`, and that every exchange is about a file that
     is being sent (`Stage.sends_of_request`).

  2. **Verdicts** — the request for the chat, answered (`Exchange.IsVerdict`).  No other request can
     be mistaken for it (`Stage.finalizing_of_request`).

  3. **Steps** — a file is sent only after it could be read, and cleared only after a verdict.

  Main statements: `Advances.sends`, `Receives.sends` and `Receives.clears_of_verdict`.
-/

namespace PushToTalk

/-- Whether a file can be read at a path. -/
def Disk.holds (d : Disk) (p : Path) : Bool :=
  match d.read p with
  | .ok _ => true
  | .error _ => false

namespace Upload

/-- The exchange in which the backend takes a file or refuses it for good. -/
def Exchange.IsVerdict (x : Exchange) : Prop :=
  (∃ name topic fileId tick, x.request = finalizeRequest name topic fileId tick) ∧
    ∃ text, x.answer = .body text

/-- The file that was read and is on its way to the backend. -/
def Stage.sends? : Stage → Option Path
  | .creating d _ | .sending d _ _ _ _ | .closing d _ | .finalizing d _ _ => some d.file
  | _ => none

/-- The file that the backend has given its verdict on. -/
def Stage.clears? : Stage → Option Path
  | .clearing file _ => some file
  | _ => none

/-- A worker that sends a file is at that file. -/
theorem Stage.file?_of_sends {stage : Stage} {file : Path} (h : stage.sends? = some file) :
    stage.file? = some file := by
  cases stage <;> first | exact h | cases h

/-- A worker that clears a file away is at that file. -/
theorem Stage.file?_of_clears {stage : Stage} {file : Path} (h : stage.clears? = some file) :
    stage.file? = some file := by
  cases stage <;> first | exact h | cases h

/-- Whatever is said to the backend is about a file that is being sent. -/
theorem Stage.sends_of_request {stage : Stage} {request : Request} {file : Path}
    (hr : stage.request? = some request) (hf : stage.file? = some file) :
    stage.sends? = some file := by
  cases stage <;> first | exact hf | cases hr

/-- With chunks left or without, the file is being sent. -/
theorem Stage.sends_sendFrom (d : Delivery) (fileId : String) (index : Nat)
    (chunks : List Bytes) : (sendFrom d fileId index chunks).sends? = some d.file := by
  cases chunks <;> rfl

/-- Only the last request of a file is one that puts it into the chat. -/
theorem Stage.finalizing_of_request {stage : Stage} {name topic fileId : String}
    {tick : TickData} (h : stage.request? = some (finalizeRequest name topic fileId tick)) :
    ∃ d fileId topic, stage = .finalizing d fileId topic := by
  -- the request differs from a creation in its method, and from a chunk in its first segment
  have hmethod : (finalizeRequest name topic fileId tick).method = .post := by
    unfold finalizeRequest
    split <;> rfl
  have hsegment : (finalizeRequest name topic fileId tick).segments.head? = some "chat" := by
    unfold finalizeRequest
    split <;> rfl
  cases stage with
  | creating d chunks =>
    rw [← Option.some.inj h] at hmethod
    cases hmethod
  | sending d id index chunk later =>
    rw [← Option.some.inj h] at hsegment
    exact absurd (Option.some.inj hsegment) (by decide)
  | finalizing d id t => exact ⟨d, id, t, rfl⟩
  | _ => cases h

namespace Worker

variable {s s' : Station} {w w' : Worker} {file : Path}

/-- A worker starts to send a file only when it can read it. -/
theorem Advances.sends {answer? : FetchId → Option Answer} (ha : Advances answer? s w s' w')
    (hf : w'.stage.sends? = some file) :
    w.stage.sends? = some file ∨
      (w.stage.file? = some file ∧ w.stage.clears? = none ∧ s.disk.holds file = true) := by
  cases ha with
  | begin hs ht hb =>
    cases hb with
    | skip => simp [Stage.sends?] at hf
    | read => cases hf
    | await => cases hf
  | finish => cases hf
  | resolve => cases hf
  | @read d chunks hs hr =>
    obtain rfl : d.file = file := Option.some.inj hf
    refine Or.inr ⟨by rw [hs]; rfl, by rw [hs]; rfl, ?_⟩
    unfold Chunk.read at hr
    split at hr
    · next hread => simp [Disk.holds, hread]
    · cases hr
  | unread => simp [Stage.sends?] at hf
  | close hs => exact Or.inl (by rw [hs]; exact hf)
  | clear => simp [Stage.sends?] at hf

/-- What is sent after an exchange was being sent before it. -/
theorem Receives.sends {answer : Answer} (hr : Receives s w answer s' w')
    (hf : w'.stage.sends? = some file) : w.stage.sends? = some file := by
  cases hr with
  | created hs _ =>
    rw [Stage.sends_sendFrom] at hf
    rw [hs]
    exact hf
  | unnamed => simp [Stage.sends?] at hf
  | sent hs =>
    rw [Stage.sends_sendFrom] at hf
    rw [hs]
    exact hf
  | verdict => cases hf
  | broken => simp [Stage.sends?] at hf
  | died => cases hf

/-- After the verdict on a file comes its deletion. -/
theorem Receives.clears_of_verdict {request : Request} {answer : Answer}
    (hr : Receives s w answer s' w') (hreq : w.stage.request? = some request)
    (hfile : w.stage.file? = some file) (hv : Exchange.IsVerdict ⟨file, request, answer⟩) :
    w'.stage.clears? = some file := by
  obtain ⟨⟨name, topic, fileId, tick, hfin⟩, text, rfl⟩ := hv
  obtain ⟨d, id, t, hs⟩ := Stage.finalizing_of_request (hreq.trans (congrArg some hfin))
  cases hr with
  | created hs' _ =>
    rw [hs] at hs'
    cases hs'
  | unnamed hs' _ =>
    rw [hs] at hs'
    cases hs'
  | sent hs' =>
    rw [hs] at hs'
    cases hs'
  | verdict hs' =>
    rw [hs'] at hfile
    exact hfile

end Worker

end Upload

end PushToTalk
