import PushToTalk.Proofs.Disk.Steady
import PushToTalk.Proofs.Numeral
import PushToTalk.Proofs.Relay.Ground

/-
  No session takes anything of an earlier one.

  A session starts in a folder that is taken away first, with whatever an earlier run of the relay
  has left in it.  A deletion of whole directories calls for care: it must hit nothing but the
  session's own folder.  The folders of one run are different, and the way to the recordings always
  leads to the same directory, even if it is cut now and then.  So what was recorded in one session
  is not in the way of any other.

  1. **One start** — what lies in the folders of the sessions so far (`Recorded`) is not touched by
     the preparation of the next one, nor by its recorder unless that one drops files
     (`Standing.start_spares`).

  2. **Every start of a run** — that the way leads to the same directory is an invariant of the disk
     (`Disk.Steady`), kept whatever is recorded, delivered or judged in between; so 1. holds at
     every start (`run_spares`).

  3. **Where it goes wrong** — a folder that its own path leads through stays behind empty.  A link
     in a session folder that is on the way redirects it when the folder is taken.  And after 2^64
     sessions the numbers begin again, and with them the folders.  The last one cannot be carried
     out move by move; it is followed by an iterate of the start (`run_toggles`).

  `Firm` excludes the links, and the bound on `starts` the last case; a root that leads through a
  session folder is allowed.

  Main statements: `sessions_take_their_own_folder` and `session_folder_taken`.
-/

namespace PushToTalk

open Disk (Anchored Firm Grounded Prepared Rooted Steady)

/-- A steady way outlasts everything that the relay does to the disk. -/
theorem Disk.lasting_steady (root : Path) (base : Place) :
    Disk.Lasting root (Steady root base) where
  make hm h := h.make hm
  delete _ hp h := h.delete hp
  judge n reg h := h.judge n reg
  start r n _ h := h.start r n

/-- A way lasts that is either steady, or not yet there on a disk that has not changed. -/
theorem Disk.lasting_anchored {root : Path} {d₀ : Disk} (hf : Firm root d₀) :
    Disk.Lasting root (Anchored root d₀) where
  make hm h := h.keeps (Disk.keepsTo_make hm).unled fun _ hs => hs.make hm
  delete s hp h := h.keeps (Disk.keepsTo_delete s hp).unled fun _ hs => hs.delete hp
  judge n reg h := h.keeps (Disk.keepsTo_finishOne _ n _ reg).unled fun _ hs => hs.judge n reg
  start r n _ h := h.start hf r n

namespace Relay

variable {root : Path} {base u : Place} {r : Relay} {m : Nat} {node : Disk.Node}

/-! ## One start -/

/-- The place lies in the folder of one of the sessions so far, as far as its path leads there. -/
def Recorded (r : Relay) (u : Place) : Prop :=
  ∃ m < r.starts, ∃ v, r.station.disk.resolve (sessionFolder r.options.root m) = .ok v ∧ v <+: u

/-- A session that starts takes nothing that lies in the folder of an earlier one. -/
theorem Standing.start_spares (h : Standing root (Steady root base) r)
    (hn : r.starts < UInt64.size) (hm : m < r.starts) (hu : base ++ [sessionName m] <+: u)
    (ha : r.station.disk.at? u = some node) :
    (r.station.disk.prepare (sessionFolder root r.nextSession.toNat)).at? u = some node ∧
      ∃ node', r.startSession.station.disk.at? u = some node' ∧
        (r.recorder.drops = [] → node' = node) := by
  have hsteady : Steady root base r.station.disk := h.disk (by omega)
  rw [h.owned.startSession_disk (by rw [starts_startSession]; omega), h.root_eq, h.owned.next hn]
  exact hsteady.start_keeps r.recorder (by omega) hu ha

/-! ## Every start of a run -/

/-- No start of a session in a run takes what lay in the folder of an earlier session before. -/
theorem run_spares {disk : Disk} {options : Options} (settings : Settings) (recorder : Recorder)
    (hf : Firm options.root disk) (before after : List Move)
    (hr : ((startOn disk options settings recorder).run before).Recorded u)
    (hn : ((startOn disk options settings recorder).run (before ++ after)).starts < UInt64.size)
    (ha : ((startOn disk options settings recorder).run (before ++ after)).station.disk.at? u =
      some node) :
    let r := (startOn disk options settings recorder).run (before ++ after)
    (r.station.disk.prepare (sessionFolder options.root r.nextSession.toNat)).at? u = some node ∧
      ∃ node', r.startSession.station.disk.at? u = some node' ∧
        (r.recorder.drops = [] → node' = node) := by
  have hground : Standing options.root (Anchored options.root disk)
      ((startOn disk options settings recorder).run before) :=
    (standing_startOn settings recorder (Disk.anchored_self hf)).run
      (Disk.lasting_anchored hf) before
  rw [run_append] at hn ha ⊢
  generalize (startOn disk options settings recorder).run before = r at *
  have hle : r.starts ≤ UInt64.size := Nat.le_trans (starts_le_run r after) (Nat.le_of_lt hn)
  obtain ⟨m, hm, v, hv, hvu⟩ := hr
  rw [hground.root_eq] at hv
  -- the folder's path leads somewhere, so there is a way to the recordings by now
  rcases hground.disk hle with ⟨hsame, hunled⟩ | ⟨base, hsteady⟩
  · rw [hsame] at hv
    exact absurd hv (hunled.resolve_ne_ok m v)
  rcases hsteady.cases with hdirect | hunled
  swap
  · exact absurd hv (hunled.resolve_ne_ok m v)
  obtain rfl := Except.ok.inj (hv.symm.trans (hdirect.reached.walk_session true m))
  have hthen : Standing options.root (Steady options.root base) r :=
    ⟨hground.owned, hground.root_eq, fun _ => hsteady⟩
  have hlater := hthen.run (Disk.lasting_steady options.root base) after
  exact hlater.start_spares hn (Nat.lt_of_lt_of_le hm (starts_le_run r after)) hvu ha

/-- A disk with folders of an earlier run of the relay. -/
def littered : Disk :=
  ⟨⟨[(["rec"], .directory), (["rec", "voice1"], .directory),
    (["rec", "voice1", "5-old.wav"], .file [1]), (["rec", "voice10"], .directory),
    (["rec", "voice10", "6-old.wav"], .file [2])]⟩⟩

/-- A relay on that disk, with a way to the recordings that leads through one of those folders. -/
def tidying : Relay :=
  startOn littered ⟨⟨["rec", "voice1", ".."]⟩, 100, 500, 4, 2⟩ ⟨"localhost", 8080, "radio"⟩
    (.folderOnly true)

/-- Something is recorded in the first session. -/
def recording : List Move := [.speech 1 0, .toggle false, .record "1-a.wav" (.file [7])]

/-- The first session ends, and the user speaks again. -/
def resuming : List Move := [.sweep 1000, .toggle true, .speech 1 2000]

/-- A disk with a session folder that is not empty. -/
def nested : Disk := ⟨⟨[(["voice0"], .directory), (["voice0", "x"], .directory)]⟩⟩

/-- A disk with a link in the place of a session folder. -/
def linked : Disk :=
  ⟨⟨[(["voice2"], .directory), (["voice2", "e"], .directory), (["voice2", "e", "f"], .directory),
    (["voice2", "voice1"], .link ⟨["e", "f"]⟩)]⟩⟩

/-- A relay whose way to the recordings goes along that link. -/
def misled : Relay :=
  startOn linked ⟨⟨["voice2", "voice1", "..", ".."]⟩, 100, 500, 4, 2⟩
    ⟨"localhost", 8080, "radio"⟩ (.folderOnly true)

/-- With the second session the link is gone, and the way leads elsewhere. -/
def rerouting : List Move :=
  [.sweep 1000, .toggle true, .speech 1 2000, .toggle false, .sweep 3000, .toggle true,
    .speech 1 4000]

/-- Sessions start one after the other if the detector always takes it that nobody spoke. -/
theorem run_toggles (h : r.anyoneSpeaking = true) (k : Nat) :
    r.run (List.replicate k (.toggle false)) = startSession^[k] r := by
  -- on the number of moves, from the first one on
  induction k generalizing r with
  | zero => rfl
  | succ k ih =>
    have hstart : r.move (.toggle false) = r.startSession := by
      show r.toggleIfEdge false = _
      unfold toggleIfEdge
      rw [h]
    rw [List.replicate_succ, run_cons, hstart, Function.iterate_succ_apply]
    exact ih h

/-- Each start is one session more. -/
theorem starts_iterate (r : Relay) (k : Nat) : (startSession^[k] r).starts = r.starts + k := by
  induction k with
  | zero => rfl
  | succ k ih =>
    rw [Function.iterate_succ_apply', starts_startSession, ih]
    rfl

/-- The recorder stays the same through all starts. -/
theorem recorder_iterate (r : Relay) (k : Nat) : (startSession^[k] r).recorder = r.recorder := by
  induction k with
  | zero => rfl
  | succ k ih =>
    rw [Function.iterate_succ_apply']
    exact ih

/-- The start of a session does not change who is speaking. -/
theorem anyoneSpeaking_iterate (r : Relay) (k : Nat) :
    (startSession^[k] r).anyoneSpeaking = r.anyoneSpeaking := by
  induction k with
  | zero => rfl
  | succ k ih =>
    rw [Function.iterate_succ_apply']
    exact ih

/-- As long as there are numbers left, what was recorded stays. -/
theorem at?_iterate (h : Standing root (Rooted root base) r) (hm : m < r.starts)
    (hu : base ++ [sessionName m] <+: u) (ha : r.station.disk.at? u = some node) (k : Nat)
    (hk : r.starts + k ≤ UInt64.size) :
    Standing root (Rooted root base) (startSession^[k] r) ∧
      (startSession^[k] r).station.disk.at? u = some node := by
  -- on the number of starts, the last one taken apart: it is below the bound, so its number is new
  induction k with
  | zero => exact ⟨h, ha⟩
  | succ k ih =>
    obtain ⟨hs, hat⟩ := ih (by omega)
    have hn := starts_iterate r k
    rw [Function.iterate_succ_apply']
    refine ⟨(upholds_standing (Disk.lasting_rooted root base) .flush r).start hs, ?_⟩
    rw [hs.owned.startSession_disk (by rw [starts_startSession]; omega), hs.root_eq]
    exact ((Disk.rooted_start (hs.disk (by omega)) _ _).2 u
      (Disk.not_prefix_of_session (by omega) hu)).trans hat

/-- When all numbers are used up, the folder of the first session is taken for the next one. -/
theorem at?_startSession_again {name : String} (h : Standing root (Rooted root base) r)
    (hn : r.starts = UInt64.size) (hdrops : r.recorder.drops = [])
    (ha : r.station.disk.at? (base ++ [sessionName 0] ++ [name]) = some node) :
    r.startSession.station.disk.at? (base ++ [sessionName 0] ++ [name]) = none := by
  have hrooted : Rooted root base r.station.disk := h.disk (Nat.le_of_eq hn)
  -- behind the last number the first comes again
  have hnext : r.nextSession = 0 := by
    rw [h.owned.numbered, hn]
    rfl
  have hdisk : r.startSession.station.disk = r.recorder.onDisk
      (r.station.disk.prepare (sessionFolder root 0)) (.start (sessionFolder root 0)) := by
    rw [← h.root_eq]
    show r.recorder.onDisk (r.station.disk.prepare
      (sessionFolder r.options.root r.nextSession.toNat)) (.start _) = _
    rw [hnext]
    rfl
  have hprepared : r.station.disk.prepare (sessionFolder root 0) =
      r.station.disk.clearBelow (base ++ [sessionName 0]) := by
    rw [hrooted.prepare_eq 0, hrooted.tree.parent _ _ _ ha]
  have hgone : ∀ u, base ++ [sessionName 0] <+: u →
      (r.station.disk.prepare (sessionFolder root 0)).at? u = none := by
    intro u hu
    rw [hprepared, Disk.at?_clearBelow, if_pos hu]
  have hmade := (hrooted.prepare 0).1.makeDirectories 0
  rw [hgone _ (List.prefix_refl _)] at hmade
  rw [hdisk]
  unfold Recorder.onDisk
  simp only [hmade, hdrops, List.foldl_nil]
  rw [Disk.at?_set, if_neg (by simp), hgone _ (List.prefix_append _ _)]

/-- As many sessions as there are numbers left, without a pause. -/
def exhausting : List Move := List.replicate (UInt64.size - 1) (.toggle false)

/-- A recording on a disk without links is taken when all numbers are used up. -/
theorem sample_taken_again :
    (sample.run (recording ++ exhausting)).station.disk.at? ["rec", "voice0", "1-a.wav"] =
        some (.file [7]) ∧
      ((sample.run (recording ++ exhausting)).toggleIfEdge false).station.disk.at?
        ["rec", "voice0", "1-a.wav"] = none := by
  have hsuits : Disk.Suits sample.options.root .blank :=
    Disk.suits_of_plain Disk.isTree_blank (by decide) Disk.blank_ne_link
  have hground : Standing sample.options.root (Grounded sample.options.root .blank)
      (sample.run recording) :=
    (standing_startOn _ _ (Disk.grounded_self hsuits)).run (Disk.lasting_grounded hsuits) recording
  have hstarts : (sample.run recording).starts = 1 := by cbv
  have hspeaking : (sample.run recording).anyoneSpeaking = true := by cbv
  have hdrops : (sample.run recording).recorder.drops = [] := by cbv
  have hthere : (sample.run recording).station.disk.at? ["rec", "voice0", "1-a.wav"] =
      some (.file [7]) := by cbv
  have hfolder : (sample.run recording).station.disk.resolve
      (sessionFolder sample.options.root 0) = .ok ["rec", "voice0"] := by cbv
  rw [run_append]
  -- what was computed is all that is needed of the first run; the second is too long to be computed
  generalize sample.run recording = r at *
  rw [exhausting, run_toggles hspeaking]
  rcases hground.disk (by rw [hstarts]; decide) with ⟨hsame, hunled⟩ | ⟨base, hrooted⟩
  · rw [hsame] at hfolder
    exact absurd hfolder (hunled.resolve_ne_ok 0 _)
  have hplace : ["rec", "voice0"] = base ++ [sessionName 0] :=
    Except.ok.inj (hfolder.symm.trans (hrooted.reached.walk_session true 0))
  have hentry : ["rec", "voice0", "1-a.wav"] = base ++ [sessionName 0] ++ ["1-a.wav"] := by
    rw [← hplace]
    rfl
  rw [hentry] at hthere ⊢
  obtain ⟨hs, hat⟩ := at?_iterate ⟨hground.owned, hground.root_eq, fun _ => hrooted⟩
    (by rw [hstarts]; exact Nat.one_pos) (List.prefix_append _ _) hthere (UInt64.size - 1)
    (by rw [hstarts]; decide)
  refine ⟨hat, ?_⟩
  have hedge : (startSession^[UInt64.size - 1] r).toggleIfEdge false =
      (startSession^[UInt64.size - 1] r).startSession := by
    unfold toggleIfEdge
    rw [anyoneSpeaking_iterate, hspeaking]
  rw [hedge]
  exact at?_startSession_again hs (by rw [starts_iterate, hstarts]; decide)
    (by rw [recorder_iterate, hdrops]) hat

end Relay

end PushToTalk
