import Mathlib
import PushToTalk.Proofs.Relay.Session
import PushToTalk.Proofs.Relay.Stamp

/-
  Where the tick of a recording comes from.

  The tick of a recording tells listeners where in the conversation it belongs, so it had better be
  that of the speech that was recorded.  What the relay guarantees is a little less.  A tick that a
  recording is filed under was requested by its user's first speech since a flush, and the next
  flush handed the request over together with the recording (`Sourced`).  So much holds of every
  tick, through all retries and for every request that names one.

  It does not say that the speech was in the session of the recording.  The request of a user who
  fell silent again before a session started waits for the next flush, whichever session that
  belongs to, and keeps a later speech from starting one of its own.  The second part is a run in
  which this happens.

  1. **Every tick has a source** — it comes from the request that a job gives for the file's user
     (`sourced_of_gives`), and from there on it is copied (`Relay.Stamp`).  A request that a job has
     was started by the first speech since the flush before (`History.pending_origin`).

  2. **Speech that was swept away** — a user speaks, is swept, and speaks again for a session; its
     recording is filed under the tick of the first speech, at a time when nobody was recording.

  Main statements: `tick_source` and `tick_of_swept_speech`.
-/

namespace PushToTalk

open Upload (Job JobId Queue Worker Exchange)

namespace History

variable {h : History} {file : Path} {tick : TickData}

/-- The tick was requested by the first speech of the file's user since a flush, and the next flush
handed over both the request and the file. -/
structure Sourced (h : History) (file : Path) (tick : TickData) (user : UserId) (i j : Nat)
    (fetch : FetchId) : Prop where
  owner : UserId.ofPath file = .ok user
  fetches : h.FetchesAt i user fetch
  before : i < j
  flushes : h.FlushesAt j
  next : ∀ l, i < l → l < j → ¬ h.FlushesAt l
  listed : ∃ file' ∈ (h.jobAt j).files, (file' == file) = true
  answered : ∃ answer, h.final.fetches.answer? fetch = some answer ∧ tick = .ofAnswer answer

/-- The source of a tick does not hang on how the path of the file is spelled. -/
theorem Sourced.congr {file' : Path} {user : UserId} {i j : Nat} {fetch : FetchId}
    (hs : h.Sourced file tick user i j fetch) (he : (file == file') = true) :
    h.Sourced file' tick user i j fetch := by
  obtain ⟨listed, hmem, hsame⟩ := hs.listed
  exact { hs with
    owner := UserId.ofPath_congr he hs.owner
    listed := ⟨listed, hmem, BEq.trans hsame he⟩ }

/-- A tick that the requests of a job give, if they give any, has its source. -/
theorem sourced_of_gives {i : Nat} {job : Job} (hj : job ∈ (h.after i).queue.jobs)
    (hf : file ∈ job.files) (hg : job.Gives h.final.fetches.answer? file tick) :
    tick = .unknown ∨ ∃ user i j fetch, h.Sourced file tick user i j fetch := by
  obtain ⟨k, -, hflush, rfl⟩ := job_origin hj
  obtain ⟨user, hu, hg⟩ := hg
  cases hp : (h.jobAt k).pending.get? user with
  | none =>
    rw [hp] at hg
    exact Or.inl hg
  | some request =>
    rw [hp] at hg
    obtain ⟨i, hlt, hfetch, hnext⟩ := pending_origin (h := h) (i := k) hp
    exact Or.inr ⟨user, i, k, request.fetch, hu, hfetch, hlt, hflush, hnext,
      ⟨file, hf, Path.beq_refl file⟩, hg⟩

/-- Every tick that a recording is remembered or filed under has its source: the first speech of
its user since a flush, of which the next flush handed over the request together with the
recording. -/
theorem tick_source (h : History) :
    (∀ file tick, h.final.station.cache.get? file = some tick → tick ≠ .unknown →
      ∃ user i j fetch, h.Sourced file tick user i j fetch) ∧
    ∀ x ∈ h.final.exchanges, x.Finalizes → x.request.query ≠ [] →
      ∃ tick user i j fetch, h.Sourced x.file tick user i j fetch ∧
        x.request.query = Upload.tickQuery tick := by
  let P : List Exchange → Path → TickData → Prop := fun _ file tick =>
    tick = .unknown ∨ ∃ user i j fetch, h.Sourced file tick user i j fetch
  have steady : Relay.Steady P := by
    refine ⟨fun he hp => ?_, fun _ hp => hp⟩
    rcases hp with hp | ⟨user, i, j, fetch, hs⟩
    · exact Or.inl hp
    · exact Or.inr ⟨user, i, j, fetch, hs.congr he⟩
  have stamped : (h.after h.steps.length).Stamped P :=
    h.upheld (Relay.stamped_startOn P _ _ _ _) (fun i m _ =>
      Relay.upholds_stamped steady (h.staffed_after i) (fun _ _ => answer_final)
        (fun _ hj _ hf _ hg => sourced_of_gives hj hf hg) m) _
  rw [after_length] at stamped
  -- the cache and the exchanges are two of the places that `Stamped` speaks of
  constructor
  · intro file tick hc hne
    exact (stamped.cached file tick hc).resolve_left hne
  · intro x hx hfin hquery
    obtain ⟨before, after, hsplit⟩ := List.append_of_mem hx
    obtain ⟨tick, hp, hq⟩ := stamped.told before x after hsplit hfin
    rcases hp with rfl | ⟨user, i, j, fetch, hs⟩
    · exact absurd hq hquery
    · exact ⟨tick, user, i, j, fetch, hs, hq⟩

/-! ## Speech that was swept away -/

/-- The recorder writes recordings of those only who are speaking, into the active folder. -/
def RecordsSpeakers (h : History) : Prop :=
  ∀ i name node, h.steps[i]? = some (.record name node) → ∃ folder user,
    (h.after i).station.folders.active = some folder ∧
      UserId.ofPath (folder.child name) = .ok user ∧ (h.after i).isSpeaking user = true

/-- A user speaks, falls silent before a session starts, and speaks again for a session. -/
def swept : History where
  disk := .blank
  options := Relay.sample.options
  settings := Relay.sample.station.settings
  recorder := .folderOnly true
  moves := [.speech 1 0, .sweep 1000, .speech 1 5000, .toggle false,
    .record "1-a.wav" (.file [7]), .sweep 6000, .toggle true, .flushIfStopped, .dispatch, .fetch,
    .tick 0 (.body "\x7b\"tickId\":3,\"elapsed\":4\x7d"), .advance 0, .advance 0, .advance 0,
    .answer 0 (.body "\x7b\"fileId\":\"x\"\x7d"), .answer 0 (.body ""), .advance 0,
    .answer 0 (.body "")]

/-- In that run the worlds of host and recorder go together. -/
theorem swept_threaded : swept.Threaded := threaded_iff.2 (by cbv)

/-- The only entry is made in step 4, under the number of the one who is speaking. -/
theorem swept_recordsSpeakers : swept.RecordsSpeakers := by
  intro i name node hm
  have hplace : i ∈ swept.places Move.isRecord := mem_places hm rfl
  rw [show swept.places Move.isRecord = [4] by cbv] at hplace
  obtain rfl := List.mem_singleton.1 hplace
  obtain ⟨rfl, rfl⟩ : "1-a.wav" = name ∧ Disk.Node.file [7] = node := by
    have hstep : swept.steps[4]? = some (.record "1-a.wav" (.file [7])) := by cbv
    simpa using hstep.symm.trans hm
  exact ⟨⟨["rec", "voice0"]⟩, 1, by cbv, by cbv, by cbv⟩

/-- Only the first speech starts a fetch, and it belongs to no session. -/
theorem swept_fetchesAt {i : Nat} {fetch : FetchId} (hf : swept.FetchesAt i 1 fetch) :
    ¬ swept.BelongsTo 0 1 i := by
  obtain ⟨⟨now, hm⟩, hnew, -⟩ := hf
  have hplace : i ∈ swept.places Move.isSpeech := mem_places hm rfl
  rw [show swept.places Move.isSpeech = [0, 2] by cbv] at hplace
  rcases List.mem_pair.1 hplace with rfl | rfl
  · rintro (⟨-, hlt⟩ | ⟨e, -, ⟨-, hstart⟩, hspeaks⟩)
    · exact absurd hlt (by decide)
    · -- before the session starts the user has fallen silent
      have hle : 2 ≤ e := by
        refine Classical.byContradiction fun hlt => ?_
        have hnone : (swept.after 3).starts = 0 := by cbv
        have hmono := swept.starts_mono (i := e + 1) (j := 3) (by omega)
        omega
      have hsilent : (swept.after 2).isSpeaking 1 = false := by cbv
      rw [hspeaks 2 (by omega) hle] at hsilent
      cases hsilent
  · have hpending : (swept.after 2).pending.has 1 = true := by cbv
    rw [hpending] at hnew
    cases hnew

/-- The recording of the session is filed under the tick of the speech before it. -/
theorem tick_of_swept_speech : ¬ ∀ h : History, h.Threaded → h.RecordsSpeakers →
    ∀ x ∈ h.final.exchanges, x.Finalizes → x.request.query ≠ [] →
      ∀ k name user, x.file = (sessionFolder h.options.root k).child name →
        UserId.ofPath x.file = .ok user →
        ∃ i fetch answer, h.FetchesAt i user fetch ∧ h.BelongsTo k user i ∧
          h.final.fetches.answer? fetch = some answer ∧
          x.request.query = Upload.tickQuery (.ofAnswer answer) := by
  intro hall
  have hlast : swept.final.exchanges.getLast? = some ⟨⟨["rec", "voice0", "1-a.wav"]⟩,
      Upload.finalizeRequest "User1" "radio" "x" ⟨some 3, some 4⟩, .body ""⟩ := by cbv
  obtain ⟨i, fetch, answer, hfetch, hbelongs, -⟩ := hall swept swept_threaded
    swept_recordsSpeakers _ (List.mem_of_getLast? hlast)
    ⟨"User1", "radio", "x", ⟨some 3, some 4⟩, rfl⟩ (by decide) 0 "1-a.wav" 1 (by cbv) (by cbv)
  exact swept_fetchesAt hfetch hbelongs

end History

end PushToTalk
