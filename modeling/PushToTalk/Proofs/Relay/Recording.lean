import Mathlib
import PushToTalk.Proofs.Disk.Entry
import PushToTalk.Proofs.Relay.Ground
import PushToTalk.Proofs.Upload.Progress

/-
  No recording is lost.

  This is what a user counts on: what was recorded is delivered in the end, or it is still there.
  From the moment that the recorder has made an entry of a session folder, the entry stands there
  unchanged and its folder is registered, until the backend has been told all of it.  Failures of
  the backend, the death of a worker, a closed queue and the end of sessions do not change that.

  1. **`Kept`, `Handed`** — the two things that can be true of a recording, told by the disk and the
     registry, and by the exchanges.  "Told all of it" is `Upload.Delivered`: the creation with the
     number of its chunks, every chunk in order with its bytes, and the request that puts it into
     the chat, each of them answered.

  2. **The invariant** — `Held` ties the four stores together for one entry: the disk, the registry,
     the jobs, and what the workers have said so far.  While the entry is there, whatever a worker
     has said about it are its own bytes; so when the verdict comes, the file was told to the end.
     This is why "unchanged" is part of it: a worker reads the file once and sends what it has read.

  3. **Steps** — each keeps `Held`, but for the end of an exchange, which may deliver the entry
     (`Held.answerWorker`).  A folder is given up only when it is gone, and it is not gone while an
     entry is in it.

  4. **Runs** — the entry is followed from a time at which its folder is the active one, as no job
     has the folder yet.

  5. **A root that leads through a session folder** — on such a way the removal of an empty folder
     cuts off another one, which is then taken for delivered.  `Suits` excludes these roots.

  The recorder may overwrite its own files; `Spares` says that it leaves this one alone.

  Main statement: `no_recording_lost`.
-/

namespace PushToTalk

open PushToTalk.Path (IsPlain)
open Upload (Job JobId Queue Worker Stage Delivered)
open Disk (Rooted Suits Listed)

namespace Relay

variable {root : Path} {base : Place} {n : Nat} {name : String} {node : Disk.Node}
  {r r' : Relay} {file : Path}

/-- An entry of a session folder is still there, and its folder is not given up. -/
structure Kept (folder : Path) (name : String) (node : Disk.Node) (r : Relay) : Prop where
  there : r.station.disk.entry? (folder.child name) = some node
  registered : ∃ f ∈ r.station.folders.folders, f.path = folder ∧
    f.state ≠ .finishedSuccessfully

/-- The backend was told all of a recording: its creation with the number of its chunks, every
chunk in order, and that it belongs into the chat; and it answered all of this. -/
def Handed (file : Path) (node : Disk.Node) (r : Relay) : Prop :=
  ∃ bytes user, node = .file bytes ∧ file.extension? = some "wav" ∧
    UserId.ofPath file = .ok user ∧ Delivered file bytes r.exchanges

/-- The recorder does not write an entry of the folder anew. -/
def Spares (folder : Path) (name : String) : Relay → List Move → Prop
  | _, [] => True
  | r, m :: later =>
    (match m with
      | .record other _ => other = name → r.station.folders.isActive folder = false
      | _ => True) ∧
    Spares folder name (r.move m) later

/-- An entry of the session folder `n` is there, its folder is not given up, only recordings are
handed out, and whatever the workers have said about it is true. -/
structure Held (root : Path) (base : Place) (n : Nat) (name : String) (node : Disk.Node)
    (r : Relay) : Prop where
  there : r.station.disk.at? (base ++ [sessionName n] ++ [name]) = some node
  registered : Listed root n r.station.folders
  listed : ∀ job ∈ r.queue.jobs, (sessionFolder root n).child name ∈ job.files →
    (∃ bytes, node = .file bytes) ∧
      ((sessionFolder root n).child name).extension? = some "wav"
  carried : ∀ e ∈ r.queue.running,
    e.2.Carries ((sessionFolder root n).child name) node r.exchanges

/-- What the backend was told stays told. -/
theorem Handed.mono (h : Handed file node r) (hl : r.exchanges.Sublist r'.exchanges) :
    Handed file node r' := by
  obtain ⟨bytes, user, hnode, hext, huser, hd⟩ := h
  exact ⟨bytes, user, hnode, hext, huser, hd.mono hl⟩

/-! ## What each step does to an entry -/

/-- What becomes of an entry hangs on disk, registry, queue and exchanges only. -/
theorem Held.congr (h : Held root base n name node r)
    (hd : r'.station.disk.at? (base ++ [sessionName n] ++ [name]) =
      r.station.disk.at? (base ++ [sessionName n] ++ [name]))
    (hf : Listed root n r.station.folders → Listed root n r'.station.folders)
    (hq : r'.queue = r.queue) (hx : r'.exchanges = r.exchanges) :
    Held root base n name node r' := by
  refine ⟨hd.trans h.there, hf h.registered, ?_, ?_⟩
  · rw [hq]
    exact h.listed
  · rw [hq, hx]
    exact h.carried

/-- The start of a session drops no folder. -/
theorem listed_beginRecording {reg : Registry} (h : Listed root n reg) (p : Path) :
    Listed root n (reg.beginRecording p) := by
  obtain ⟨f, hf, hrest⟩ := h
  exact ⟨f, List.mem_append_left _ hf, hrest⟩

/-- A scan drops no folder but those that are finished for good. -/
theorem listed_afterScan {reg : Registry} (h : Listed root n reg) :
    Listed root n reg.afterScan := by
  obtain ⟨f, hf, hp, hs⟩ := h
  cases he : reg.isEligible f with
  | false => exact ⟨f, Ownership.afterScan_of_not_eligible hf hs he, hp, hs⟩
  | true => exact ⟨_, Ownership.afterScan_of_eligible hf he, hp, FolderState.noConfusion⟩

/-- The folders of sessions so far, without the bound on their numbers. -/
theorem IsSession.paths {root : Path} {k : Nat} {paths : List Path}
    (h : ∀ p ∈ paths, IsSession root k p) : ∀ p ∈ paths, ∃ m, p = sessionFolder root m :=
  fun p hp => (h p hp).exists_eq

/-- The start of another session. -/
theorem Held.start (h : Held root base n name node r)
    (hs : Standing root (Rooted root base) r) (hlt : n < r.starts)
    (hn : r.startSession.starts ≤ UInt64.size) : Held root base n name node r.startSession := by
  have hdisk := hs.owned.startSession_disk hn
  rw [starts_startSession] at hn
  refine h.congr ?_ (fun hl => listed_beginRecording hl _) rfl rfl
  have hchanges := (Disk.rooted_start (hs.disk (by omega)) r.recorder r.starts).2
  rw [hdisk, hs.root_eq]
  exact hchanges.entry (by omega) name

/-- A flush lists the entry only if it is a recording. -/
theorem Held.flush (h : Held root base n name node r)
    (hs : Standing root (Rooted root base) r) (hp : IsPlain name) (hn : r.starts ≤ UInt64.size) :
    Held root base n name node r.flush.1 := by
  have hown := hs.ownership hn
  have hr := hs.disk hn
  have hscan : Listed root n r.station.folders.afterScan := listed_afterScan h.registered
  rcases flush_cases r with ⟨queue, id, hsub, he⟩ | he
  · rw [he]
    obtain ⟨-, rfl⟩ := Queue.submit_eq_ok hsub
    refine ⟨h.there, hscan, fun job hj hfile => ?_, h.carried⟩
    rcases List.mem_append.1 hj with hold | hnew
    · exact h.listed job hold hfile
    obtain rfl := List.mem_singleton.1 hnew
    obtain ⟨folder, hfolder, hin⟩ := mem_recordings.1 hfile
    obtain ⟨⟨m, -, rfl⟩, -, -⟩ := hown.eligible_spec hfolder
    obtain ⟨other, bytes, hother, he, ha, hext⟩ := hr.recording_spec hin
    -- what is listed under the path of the entry is the entry
    obtain ⟨hb, rfl⟩ := (Path.child_beq_child hp hother).1 (by rw [he]; exact Path.beq_refl _)
    obtain rfl := sessionFolder_beq.1 hb
    rw [h.there] at ha
    exact ⟨⟨bytes, Option.some.inj ha⟩, hext⟩
  · rw [he]
    have hkeep := hr.finish_keeps (Ownership.distinct_afterScan hown.distinct) h.there hscan
      (IsSession.paths fun p hp => (hown.eligible_spec hp).1)
    exact ⟨hkeep.1, hkeep.2, h.listed, h.carried⟩

/-- The recorder makes another entry. -/
theorem Held.record (h : Held root base n name node r)
    (hs : Standing root (Rooted root base) r) (hn : r.starts ≤ UInt64.size) {other : String}
    {node' : Disk.Node}
    (hspare : other = name → r.station.folders.isActive (sessionFolder root n) = false) :
    Held root base n name node (r.record other node') := by
  rcases record_cases r other node' with he | ⟨folder, disk, hactive, hm, he⟩
  · rwa [he]
  rw [he]
  obtain ⟨⟨m, -, rfl⟩, -⟩ := (hs.ownership hn).active folder hactive
  obtain ⟨-, -, rfl, -⟩ := (hs.disk hn).reached.make_eq_ok hm
  refine h.congr ?_ id rfl rfl
  show (r.station.disk.set (base ++ [sessionName m] ++ [other]) node').at? _ = _
  rw [Disk.at?_set, if_neg]
  intro he
  obtain ⟨rfl, rfl⟩ := Disk.entry_place_injective he
  -- the same entry would lie in the active folder, which the recorder spares
  have hidle := hspare rfl
  unfold Registry.isActive at hidle
  simp only [hactive, Path.beq_refl, Bool.true_eq_false] at hidle

/-- A new worker has not said anything yet. -/
theorem Held.dispatch (h : Held root base n name node r) :
    Held root base n name node r.dispatch := by
  rcases dispatch_cases r with he | ⟨queue, hd, he⟩
  · rwa [he]
  rw [he]
  refine ⟨h.there, h.registered, ?_, fun e he => ?_⟩
  · obtain ⟨id, job, later, -, rfl⟩ := Queue.dispatch_eq_some hd
    exact h.listed
  · rcases Queue.mem_running_dispatch hd he with hold | ⟨job, hnew⟩
    · exact h.carried e hold
    · rw [hnew]
      exact Worker.carries_of_none rfl

/-- A worker that makes a step of its own deletes no entry that there is no verdict on, and gives
no folder up that has an entry. -/
theorem Held.advance (h : Held root base n name node r)
    (hs : Standing root (Rooted root base) r) (hp : IsPlain name) (hn : r.starts ≤ UInt64.size)
    (id : JobId) : Held root base n name node (r.advance id) := by
  rcases advance_cases r id with he | ⟨w, s', w', hrun, hadv, he⟩
  · rwa [he]
  rw [he]
  have hown := hs.ownership hn
  have hr := hs.disk hn
  obtain ⟨job, ho, hserves, -⟩ := hown.job_of_running hrun
  have hjob : job ∈ r.queue.jobs := List.mem_of_getElem? ho.1
  have hfinish := hr.finish_keeps hown.distinct h.there h.registered
    (IsSession.paths (hown.jobSession job hjob))
  rw [← hserves.folders] at hfinish
  refine ⟨?_, ?_, ?_, fun e he => ?_⟩
  · show s'.disk.at? _ = some node
    rcases hadv.disk with hd | rfl | ⟨file, verdict, hstage, rfl⟩
    · rw [hd]
      exact h.there
    · exact hfinish.1
    · -- what is deleted is a file with a verdict, and the entry has none
      obtain ⟨m, other, hother, rfl⟩ := file_of_running hown hrun (by rw [hstage]; rfl)
      rw [hr.delete_keeps hother, h.there]
      intro he
      refine (h.carried _ hrun).noVerdict ?_
      rw [hstage, ← he]
      rfl
  · show Listed root n s'.folders
    rcases hadv.folders with ⟨-, rfl, -⟩ | ⟨-, hf⟩
    · exact hfinish.2
    · rw [hf]
      exact h.registered
  · show ∀ job ∈ (r.queue.update id w').jobs, _
    rw [Queue.update_jobs]
    exact h.listed
  · rcases Queue.mem_running_update he with ⟨hold, -⟩ | rfl
    · exact h.carried e hold
    -- a worker reads what stands there, as only files are listed
    refine (h.carried _ hrun).advance hadv fun bytes hfile hread => ?_
    obtain ⟨⟨bytes', rfl⟩, -⟩ :=
      h.listed job hjob (hserves.files _ (Worker.mem_ahead_of_stage hfile))
    rw [hr.read_entry hp h.there] at hread
    rw [Except.ok.inj hread]

/-- The end of an exchange takes what was said about the entry further, or delivers it. -/
theorem Held.answerWorker (h : Held root base n name node r)
    (hs : Standing root (Rooted root base) r) (hn : r.starts ≤ UInt64.size) (id : JobId)
    (answer : Answer) :
    Handed ((sessionFolder root n).child name) node (r.answerWorker id answer) ∨
      Held root base n name node (r.answerWorker id answer) := by
  rcases answerWorker_cases r id answer with
    he | ⟨w, s', w', request, file, hrun, hreq, hfile, hrec, he⟩
  · rw [he]
    exact Or.inr h
  rw [he]
  obtain ⟨job, ho, hserves, -⟩ := (hs.ownership hn).job_of_running hrun
  rcases (h.carried _ hrun).receive hrec hreq hfile with hc | ⟨bytes, hnode, hat, hd⟩
  · right
    refine ⟨?_, ?_, ?_, fun e he => ?_⟩
    · show s'.disk.at? _ = some node
      rw [hrec.disk]
      exact h.there
    · show Listed root n s'.folders
      rw [hrec.folders.2]
      exact h.registered
    · show ∀ job ∈ (r.queue.update id w').jobs, _
      rw [Queue.update_jobs]
      exact h.listed
    · rcases Queue.mem_running_update he with ⟨hold, -⟩ | rfl
      · exact (h.carried e hold).mono (List.sublist_append_left _ _)
      · exact hc
  · -- it was the last exchange about the entry
    left
    obtain ⟨user, huser⟩ := (h.carried _ hrun).user hat
    obtain ⟨-, hext⟩ := h.listed job (List.mem_of_getElem? ho.1)
      (hserves.files _ (Worker.mem_ahead_of_stage hat))
    exact ⟨bytes, user, hnode, hext, huser, hd⟩

/-! ## Runs -/

/-- An entry of the session folder `n`, in a relay that has started that session. -/
structure Safe (root : Path) (base : Place) (n : Nat) (name : String) (node : Disk.Node)
    (r : Relay) : Prop where
  standing : Standing root (Rooted root base) r
  started : n < r.starts
  safe : r.starts ≤ UInt64.size →
    Handed ((sessionFolder root n).child name) node r ∨ Held root base n name node r

/-- A step that starts no session and takes back nothing that was said. -/
theorem Safe.next (h : Safe root base n name node r)
    (hst : Standing root (Rooted root base) r') (ht : r'.toggles = r.toggles)
    (hx : r.exchanges <+: r'.exchanges)
    (hheld : r.starts ≤ UInt64.size → Held root base n name node r →
      Handed ((sessionFolder root n).child name) node r' ∨ Held root base n name node r') :
    Safe root base n name node r' := by
  have hstarts : r'.starts = r.starts := starts_eq ht
  refine ⟨hst, hstarts ▸ h.started, fun hn => ?_⟩
  rw [hstarts] at hn
  rcases h.safe hn with hh | hh
  · exact Or.inl (hh.mono hx.sublist)
  · exact hheld hn hh

variable {m : Move}

/-- Every move keeps an entry or delivers it, as long as the recorder does not write it anew. -/
theorem upholds_safe (hp : IsPlain name)
    (hspare : ∀ other node', m = .record other node' → other = name →
      r.station.folders.isActive (sessionFolder root n) = false) :
    Upholds (Safe root base n name node) r m := by
  have hst : ∀ r' : Relay, Upholds (Standing root (Rooted root base)) r' m :=
    upholds_standing (Disk.lasting_rooted root base) m
  have hsame : ∀ {r r' : Relay}, r'.exchanges = r.exchanges → r.exchanges <+: r'.exchanges :=
    fun he => he ▸ List.prefix_refl _
  -- in each case what was delivered stays so, and an entry that was held is treated by its lemma
  refine ⟨?quiet, ?start, ?stop, ?flush, ?record, ?dispatch, ?advance, ?answer, ?close⟩
  case quiet =>
    intro r r' hq h
    refine h.next ((hst r).quiet hq h.standing) hq.toggles (hsame hq.exchanges) fun _ hh => ?_
    exact Or.inr (hh.congr (by rw [hq.disk]) (fun hl => by rw [hq.folders]; exact hl) hq.queue
      hq.exchanges)
  case start =>
    intro r h
    refine ⟨(hst r).start h.standing, ?_, fun hn => ?_⟩
    · rw [starts_startSession]
      exact Nat.lt_succ_of_lt h.started
    have hle : r.starts ≤ UInt64.size := by
      rw [starts_startSession] at hn
      omega
    rcases h.safe hle with hh | hh
    · exact Or.inl (hh.mono (List.Sublist.refl _))
    · exact Or.inr (hh.start h.standing h.started hn)
  case stop =>
    intro r h
    refine ⟨(hst r).stop h.standing, ?_, fun hn => ?_⟩
    · rw [starts_endSession]
      exact h.started
    rw [starts_endSession] at hn
    rcases h.safe hn with hh | hh
    · exact Or.inl (hh.mono (List.Sublist.refl _))
    · exact Or.inr (hh.congr rfl id rfl rfl)
  case flush =>
    intro r h
    exact h.next ((hst r).flush h.standing) (toggles_flush r) (hsame (exchanges_flush r))
      fun hn hh => Or.inr (hh.flush h.standing hp hn)
  case record =>
    intro other node' hm h
    exact h.next ((hst r).record hm h.standing) (toggles_record r other node')
      (hsame (exchanges_record r other node')) fun hn hh =>
        Or.inr (hh.record h.standing hn (hspare other node' hm))
  case dispatch =>
    intro hm h
    exact h.next ((hst r).dispatch hm h.standing) (toggles_dispatch r)
      (hsame (exchanges_dispatch r)) fun _ hh => Or.inr hh.dispatch
  case advance =>
    intro id hm h
    exact h.next ((hst r).advance hm h.standing) (toggles_advance r id)
      (hsame (exchanges_advance r id)) fun hn hh => Or.inr (hh.advance h.standing hp hn id)
  case answer =>
    intro id answer hm h
    exact h.next ((hst r).answer hm h.standing) (toggles_answerWorker r id answer)
      (exchanges_answerWorker r id answer) fun hn hh => hh.answerWorker h.standing hn id answer
  case close =>
    intro hm h
    exact h.next ((hst r).close hm h.standing) rfl (List.prefix_refl _) fun _ hh =>
      Or.inr ⟨hh.there, hh.registered, hh.listed, hh.carried⟩

/-- Every run keeps an entry or delivers it. -/
theorem safe_run {moves : List Move} (h : Safe root base n name node r) (hp : IsPlain name)
    (hs : Spares (sessionFolder root n) name r moves) :
    Safe root base n name node (r.run moves) := by
  induction moves generalizing r with
  | nil => exact h
  | cons m later ih =>
    refine ih (move_keeps (upholds_safe hp fun other node' hm hother => ?_) h) hs.2
    have hspare := hs.1
    rw [hm] at hspare
    exact hspare hother

/-- What stands in the folder that is being recorded into is held. -/
theorem held_of_active {folder : Path} (hs : Standing root (Rooted root base) r)
    (hn : r.starts ≤ UInt64.size) (ha : r.station.folders.active = some folder) (hp : IsPlain name)
    (he : r.station.disk.entry? (folder.child name) = some node) :
    ∃ n, folder = sessionFolder root n ∧ Safe root base n name node r := by
  have hown := hs.ownership hn
  obtain ⟨⟨n, hlast, rfl⟩, ⟨f, hf, hpath, hstate⟩, hnojob⟩ := hown.active folder ha
  -- no job has the folder yet, so none lists the entry
  have hunlisted : ∀ job ∈ r.queue.jobs, (sessionFolder root n).child name ∉ job.files := by
    intro job hj hfile
    obtain ⟨folder', hfolder', other, hother, hchild⟩ := hown.listed job hj _ hfile
    obtain ⟨m, -, rfl⟩ := hown.jobSession job hj folder' hfolder'
    obtain ⟨hb, -⟩ := (Path.child_beq_child hp hother).1 (by rw [hchild]; exact Path.beq_refl _)
    obtain rfl := sessionFolder_beq.1 hb
    exact hnojob job hj hfolder'
  refine ⟨n, rfl, hs, by omega, fun _ => Or.inr ⟨?_, ⟨f, hf, hpath, ?_⟩, ?_, fun e he => ?_⟩⟩
  · exact ((hs.disk hn).entry?_iff hp).1 he
  · rw [hstate]
    exact FolderState.noConfusion
  · intro job hj hfile
    exact absurd hfile (hunlisted job hj)
  · refine Worker.carries_of_ne fun hf => ?_
    obtain ⟨job, ho, hserves, -⟩ := hown.job_of_running he
    exact hunlisted job (List.mem_of_getElem? ho.1)
      (hserves.files _ (Worker.mem_ahead_of_stage hf))

/-- No recording is lost: what the recorder has made in a session folder is still there, in a
folder that is not given up, or the backend was told all of it. -/
theorem no_recording_lost (disk : Disk) (options : Options) (settings : Settings)
    (recorder : Recorder) (hsuits : Suits options.root disk) (before after : List Move)
    (hn : ((startOn disk options settings recorder).run (before ++ after)).starts ≤ UInt64.size)
    (folder : Path) (name : String) (node : Disk.Node) (hp : IsPlain name)
    (hactive : ((startOn disk options settings recorder).run before).station.folders.active =
      some folder)
    (hthere : ((startOn disk options settings recorder).run before).station.disk.entry?
      (folder.child name) = some node)
    (hspare : Spares folder name ((startOn disk options settings recorder).run before) after) :
    Kept folder name node ((startOn disk options settings recorder).run (before ++ after)) ∨
      Handed (folder.child name) node
        ((startOn disk options settings recorder).run (before ++ after)) := by
  have hground : Standing options.root (Disk.Grounded options.root disk)
      ((startOn disk options settings recorder).run before) :=
    run_keeps (fun m _ => upholds_standing (Disk.lasting_grounded hsuits) m)
      ⟨owned_startOn disk options settings recorder, rfl, fun _ => Disk.grounded_self hsuits⟩
  rw [run_append] at hn ⊢
  generalize (startOn disk options settings recorder).run before = r at *
  have hle : r.starts ≤ UInt64.size := Nat.le_trans (starts_le_run r after) hn
  obtain ⟨⟨n, -, hfolder⟩, -⟩ := (hground.ownership hle).active folder hactive
  -- the entry is there, so there is a way to the recordings by now
  rcases hground.disk hle with ⟨hsame, hunled⟩ | ⟨base, hrooted⟩
  · rw [hfolder, hsame, hunled.entry? n name] at hthere
    cases hthere
  obtain ⟨n, rfl, hsafe⟩ := held_of_active
    ⟨hground.owned, hground.root_eq, fun _ => hrooted⟩ hle hactive hp hthere
  have hlater := safe_run hsafe hp hspare
  rcases hlater.safe hn with hh | hh
  · exact Or.inr hh
  · exact Or.inl ⟨((hlater.standing.disk hn).entry?_iff hp).2 hh.there, hh.registered⟩

/-- In the sample run the recording is gone in the end, so the backend was told all of it. -/
theorem no_recording_lost_sample : Suits sample.options.root .blank ∧
    Spares ⟨["rec", "voice0"]⟩ "1-a.wav" (sample.run (sampleMoves.take 3))
      (sampleMoves.drop 3) ∧
    Handed ⟨["rec", "voice0", "1-a.wav"]⟩ (.file [7]) (sample.run sampleMoves) := by
  have hn : (sample.run (sampleMoves.take 3 ++ sampleMoves.drop 3)).starts ≤ UInt64.size :=
    Nat.le_trans (starts_run_le sample _) (by decide)
  have hsuits : Suits sample.options.root .blank :=
    Disk.suits_of_plain Disk.isTree_blank (by decide) Disk.blank_ne_link
  have hactive : (sample.run (sampleMoves.take 3)).station.folders.active =
      some ⟨["rec", "voice0"]⟩ := by cbv
  have hthere : (sample.run (sampleMoves.take 3)).station.disk.entry?
      (Path.child ⟨["rec", "voice0"]⟩ "1-a.wav") = some (.file [7]) := by cbv
  have hspare : Spares ⟨["rec", "voice0"]⟩ "1-a.wav" (sample.run (sampleMoves.take 3))
      (sampleMoves.drop 3) := by cbv
  have hgone : (sample.run sampleMoves).station.disk.entry?
      (Path.child ⟨["rec", "voice0"]⟩ "1-a.wav") = none := by cbv
  refine ⟨hsuits, hspare, ?_⟩
  rcases no_recording_lost _ _ _ _ hsuits _ _ hn _ _ _ (by decide) hactive hthere hspare
    with hkept | hhanded
  · have hthere := hkept.there
    rw [List.take_append_drop] at hthere
    have hnone : none = some (Disk.Node.file [7]) := hgone.symm.trans hthere
    cases hnone
  · rw [List.take_append_drop] at hhanded
    exact hhanded

/-! ## A root that leads through a session folder -/

/-- A relay whose way to the recordings leads through the first session folder. -/
def detour : Relay :=
  startOn .blank ⟨⟨["voice0", ".."]⟩, 100, 500, 4, 2⟩ ⟨"localhost", 8080, "radio"⟩
    (.folderOnly true)

/-- The first session stays empty, and something is recorded in the second one. -/
def detourBefore : List Move :=
  [.speech 1 0, .toggle false, .sweep 1000, .toggle true, .speech 1 2000, .toggle false,
    .record "1-a.wav" (.file [7])]

/-- The first session folder is removed as it is empty.  No way leads to the second one then, and
it is taken for delivered. -/
def detourAfter : List Move :=
  [.flush, .dispatch, .advance 0, .sweep 3000, .toggle true, .flush, .dispatch, .advance 1]

/-- Recordings can be lost when the way to them leads through a session folder, even on a disk
without links. -/
theorem recording_lost_on_detour : ¬ ∀ (disk : Disk) (options : Options) (settings : Settings)
    (recorder : Recorder), disk.IsTree → (∀ v target, disk.at? v ≠ some (.link target)) →
    ∀ before after : List Move,
    ((startOn disk options settings recorder).run (before ++ after)).starts ≤ UInt64.size →
    ∀ (folder : Path) (name : String) (node : Disk.Node), IsPlain name →
    ((startOn disk options settings recorder).run before).station.folders.active =
      some folder →
    ((startOn disk options settings recorder).run before).station.disk.entry?
      (folder.child name) = some node →
    Spares folder name ((startOn disk options settings recorder).run before) after →
    Kept folder name node ((startOn disk options settings recorder).run (before ++ after)) ∨
      Handed (folder.child name) node
        ((startOn disk options settings recorder).run (before ++ after)) := by
  intro h
  have hn : (detour.run (detourBefore ++ detourAfter)).starts ≤ UInt64.size :=
    Nat.le_trans (starts_run_le detour _) (by decide)
  have hactive : (detour.run detourBefore).station.folders.active =
      some ⟨["voice0", "..", "voice1"]⟩ := by cbv
  have hthere : (detour.run detourBefore).station.disk.entry?
      (Path.child ⟨["voice0", "..", "voice1"]⟩ "1-a.wav") = some (.file [7]) := by cbv
  have hspare : Spares ⟨["voice0", "..", "voice1"]⟩ "1-a.wav" (detour.run detourBefore)
      detourAfter := by cbv
  have hgiven : (detour.run (detourBefore ++ detourAfter)).station.folders.folders =
      [⟨⟨["voice0", "..", "voice1"]⟩, .finishedSuccessfully⟩] := by cbv
  have hsilent : (detour.run (detourBefore ++ detourAfter)).exchanges = [] := by cbv
  -- the folder is given up, and nothing was ever said to the backend
  rcases h .blank _ _ _ Disk.isTree_blank Disk.blank_ne_link _ _ hn _ _ _ (by decide) hactive
    hthere hspare with hkept | hhanded
  · obtain ⟨f, hf, -, hstate⟩ := hkept.registered
    have hf : f ∈ [(⟨⟨["voice0", "..", "voice1"]⟩, .finishedSuccessfully⟩ : Folder)] :=
      hgiven ▸ hf
    obtain rfl := List.mem_singleton.1 hf
    exact hstate rfl
  · obtain ⟨bytes, user, -, -, -, chunks, fileName, topic, fileId, tick, xs, hsub, -, -, -, first,
      rest, text, rfl, -⟩ := hhanded
    have hx : (first :: rest).Sublist [] := hsilent ▸ hsub
    cases hx

end Relay

end PushToTalk
