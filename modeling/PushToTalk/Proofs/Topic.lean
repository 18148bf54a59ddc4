import Mathlib
import PushToTalk.Proofs.Control
import PushToTalk.Proofs.Relay.Step
import PushToTalk.Proofs.Sending
import PushToTalk.Proofs.Upload.Verdict
import PushToTalk.Startup

/-
  The chat topic, from the text that is asked for to the address of an upload.

  A topic is given by people, and ends up in the path of a request, between the name of a user and
  the id of a file.  Nothing must be able to smuggle a slash or a dot into that path, so a topic is
  cut down to letters and digits before it comes into force.  What is shown here goes all the way
  from the text to the address: whatever was asked for, the topic under which a file is put into the
  chat is such a text, and it stands in the address as it is.

  1. **Sanitised texts** — what is left of a text is its first hundred ASCII letters and digits, and
     sanitising that again changes nothing (`toList_sanitise`, `sanitise_sanitise`).

  2. **Settings** — a topic comes into force at the start, by a configuration, an option of the
     command line, a setter or a call of the control API.  Each of them has its own way with a text
     of which nothing is left, and none lets an unsafe topic through (`isSafe_startTopic`,
     `isSafe_setTopic`, `isSafe_given`).

  3. **The relay** — so the topic in force is safe in every state, and a worker that looks it up
     asks under a safe topic.  The invariant is `Topical`: besides the topic in force it speaks of
     the requests that the workers are about to make and of those that they have made, because a
     topic that was looked up stays with its file while the settings change.  It holds in every
     state by induction on the way to that state (`Reached.topical`).

  4. **Addresses** — in the path of such a request the topic stands as it is, whatever the name
     before it, since letters and digits are written without escapes and cannot climb.  What comes
     behind can still take it away: a file id of two dots, with tabs or line breaks among them,
     removes the segment before it, which is the topic (`topic_stays_iff`).  There is a run in which
     that happens (`topic_lost_behind_climbing_id`).

  Main statement: `safe_topics`.
-/

namespace PushToTalk

open Upload (JobId)

/-! ## Sanitised texts -/

namespace Topic

variable {text topic : String}

/-- What a topic keeps are the ASCII letters and digits. -/
theorem isUsable_eq_isAlphanum (c : Char) : isUsable c = c.isAlphanum := by
  have hlower : ('a' ≤ c && c ≤ 'z') = c.isLower := rfl
  have hupper : ('A' ≤ c && c ≤ 'Z') = c.isUpper := (Bool.decide_and _ _).symm
  have hdigit : ('0' ≤ c && c ≤ '9') = c.isDigit := rfl
  rw [isUsable, hlower, hupper, hdigit, Bool.or_comm c.isLower]
  rfl

/-- Sanitising as an equation of lists: the letters and digits in their order, a hundred at most. -/
theorem toList_sanitise (text : String) :
    (sanitise text).toList = (text.toList.filter Char.isAlphanum).take 100 := by
  have hsame : isUsable = Char.isAlphanum := funext isUsable_eq_isAlphanum
  rw [sanitise, String.toList_ofList, hsame, limit]

/-- A topic that can be put into the path of an address as it is. The last part says that it went
through sanitising, or could have. -/
structure IsSafe (topic : String) : Prop where
  nonempty : topic ≠ ""
  short : topic.length ≤ 100
  alphanumeric : ∀ c ∈ topic.toList, c.isAlphanum = true
  fixed : sanitise topic = topic

/-- No more than a hundred characters are kept. -/
theorem length_sanitise_le (text : String) : (sanitise text).length ≤ 100 := by
  rw [← String.length_toList, toList_sanitise]
  exact List.length_take_le _ _

/-- Nothing but letters and digits is kept. -/
theorem isAlphanum_of_mem_sanitise {c : Char} (h : c ∈ (sanitise text).toList) :
    c.isAlphanum = true := by
  rw [← isUsable_eq_isAlphanum]
  exact isUsable_of_mem_sanitise h

/-- A short text of letters and digits is sanitised already. -/
theorem sanitise_eq_self (hshort : topic.length ≤ 100)
    (halnum : ∀ c ∈ topic.toList, c.isAlphanum = true) : sanitise topic = topic := by
  apply String.toList_injective
  rw [toList_sanitise, List.filter_eq_self.2 halnum, List.take_of_length_le]
  rwa [String.length_toList]

/-- Sanitising twice is sanitising once, so a topic may be sanitised wherever it passes through. -/
theorem sanitise_sanitise (text : String) : sanitise (sanitise text) = sanitise text :=
  sanitise_eq_self (length_sanitise_le text) fun _ hc => isAlphanum_of_mem_sanitise hc

/-- What is left of a text is safe, if anything is left. -/
theorem isSafe_sanitise (h : sanitise text ≠ "") : IsSafe (sanitise text) :=
  ⟨h, length_sanitise_le text, fun _ hc => isAlphanum_of_mem_sanitise hc, sanitise_sanitise text⟩

/-- The standard topic is one that sanitising leaves as it is. -/
theorem isSafe_standard : IsSafe standard := by
  have hself : sanitise standard = standard := by decide
  rw [← hself]
  exact isSafe_sanitise (by decide)

end Topic

/-! ## Settings -/

namespace Settings

variable {s : Settings}

/-- A topic is refused exactly if nothing is left of it. -/
theorem acceptsTopic_eq_false_iff (text : String) :
    acceptsTopic text = false ↔ Topic.sanitise text = "" := by
  simp [acceptsTopic]

/-- A setter leaves the settings alone then. -/
theorem setTopic_of_refused {text : String} (h : acceptsTopic text = false) (s : Settings) :
    s.setTopic text = s := by
  rw [setTopic, h, if_neg Bool.false_ne_true]

/-- Otherwise it puts what is left in the place of the old topic, and nothing else changes. -/
theorem setTopic_of_accepted {text : String} (h : acceptsTopic text = true) (s : Settings) :
    s.setTopic text = { s with topic := Topic.sanitise text } := by
  rw [setTopic, if_pos h]

/-- At the start there is no old topic to keep, so a text of which nothing is left gives way to
the standard one. -/
theorem isSafe_startTopic (text : String) : Topic.IsSafe (startTopic text) := by
  unfold startTopic
  split
  · exact Topic.isSafe_standard
  · next hne => exact Topic.isSafe_sanitise (by simpa using hne)

/-- A setter keeps the topic safe: it refuses, or it puts in what was sanitised. -/
theorem isSafe_setTopic (h : Topic.IsSafe s.topic) (text : String) :
    Topic.IsSafe (s.setTopic text).topic := by
  cases haccepts : acceptsTopic text with
  | false => rwa [setTopic_of_refused haccepts]
  | true =>
    rw [setTopic_of_accepted haccepts]
    -- it has accepted, so something is left
    apply Topic.isSafe_sanitise
    intro hempty
    rw [(acceptsTopic_eq_false_iff text).2 hempty] at haccepts
    cases haccepts

/-- Host, port and topic that may each be given or left out: what is left out changes nothing,
and only the topic touches the topic. The command line and the control API both come down to
this. -/
theorem isSafe_given (h : Topic.IsSafe s.topic) (host : Option String) (port : Option UInt16)
    (topic : Option String) :
    let s := (host.map s.setHost).getD s
    let s := (port.map s.setPort).getD s
    Topic.IsSafe ((topic.map s.setTopic).getD s).topic := by
  intro s₁ s₂
  have hkept : s₂.topic = s.topic := by
    cases host <;> cases port <;> rfl
  cases topic with
  | none => exact hkept ▸ h
  | some text => exact isSafe_setTopic (hkept ▸ h) text

end Settings

/-- The settings that a configuration and the options of a command line begin with. -/
theorem CommandLine.Arguments.isSafe_settings (a : CommandLine.Arguments) (c : Config) :
    Topic.IsSafe (a.settings c).topic :=
  Settings.isSafe_given (Settings.isSafe_startTopic c.chat.topic) a.host a.port a.topic

/-- The settings after an update by the control API. -/
theorem Control.ConfigUpdate.isSafe_apply {s : Settings} (h : Topic.IsSafe s.topic)
    (u : Control.ConfigUpdate) : Topic.IsSafe (u.apply s).topic :=
  Settings.isSafe_given h u.host u.port u.topic

/-! ## The relay -/

namespace Relay

/-- The relay with other settings. -/
def withSettings (r : Relay) (settings : Settings) : Relay :=
  { r with station := { r.station with settings } }

/-- A relay as it comes to be, whatever settings it begins with and however they are changed
while it runs. There are two ways to begin, three setters, the calls of the control API, and the
moves. -/
inductive Reached : Relay → Prop
  /-- It begins with the settings that it is given. -/
  | start (disk : Disk) (options : Options) (host : String) (port : UInt16) (topic : String)
      (recorder : Recorder) : Reached (startOn disk options (.start host port topic) recorder)
  /-- It begins with a configuration and the options of a command line. -/
  | configured (disk : Disk) (options : Options) (c : Config) (a : CommandLine.Arguments)
      (recorder : Recorder) : Reached (startOn disk options (a.settings c) recorder)
  | setHost {r : Relay} (h : Reached r) (host : String) :
      Reached (r.withSettings (r.station.settings.setHost host))
  | setPort {r : Relay} (h : Reached r) (port : UInt16) :
      Reached (r.withSettings (r.station.settings.setPort port))
  | setTopic {r : Relay} (h : Reached r) (topic : String) :
      Reached (r.withSettings (r.station.settings.setTopic topic))
  /-- A call of the control API is answered. -/
  | serve {r : Relay} (h : Reached r) (now : Instant) (call : Control.Call) :
      Reached (Control.serve r now call).1
  | move {r : Relay} (h : Reached r) (m : Move) : Reached (r.move m)

end Relay

/-- If a request puts a file into the chat, then under a safe topic. -/
def Request.IsTopical (request : Request) : Prop :=
  ∀ name topic fileId tick, request = Upload.finalizeRequest name topic fileId tick →
    Topic.IsSafe topic

namespace Upload

/-- A step of a worker never touches the settings. It may look the topic up, and nothing more. -/
theorem Worker.Advances.settings {answer? : FetchId → Option Answer} {s s' : Station}
    {w w' : Worker} (ha : Worker.Advances answer? s w s' w') : s'.settings = s.settings := by
  cases ha with
  | clear =>
    unfold Station.delete
    split <;> rfl
  | _ => rfl

/-- An answer never touches the settings. -/
theorem Worker.Receives.settings {s s' : Station} {w w' : Worker} {answer : Answer}
    (hr : Worker.Receives s w answer s' w') : s'.settings = s.settings := by
  cases hr <;> rfl

/-- A request that is made under a safe topic has a safe topic. The point is that the topic can
be read off the segments, so no other spelling of the same request has another one. -/
theorem isTopical_finalizeRequest {topic : String} (h : Topic.IsSafe topic)
    (name fileId : String) (tick : TickData) :
    (finalizeRequest name topic fileId tick).IsTopical := by
  intro name' topic' fileId' tick' heq
  have hsegments := congrArg Request.segments heq
  rw [segments_finalizeRequest, segments_finalizeRequest] at hsegments
  have htopic : topic = topic' := by
    simp only [List.cons.injEq] at hsegments
    exact hsegments.2.2.2.2.1
  rwa [← htopic]

/-- What is asked at this stage is asked under a safe topic. -/
def Stage.IsTopical (stage : Stage) : Prop :=
  ∀ request, stage.request? = some request → request.IsTopical

/-- Only the last request of a file has a topic. -/
theorem Stage.isTopical_of_ne {stage : Stage}
    (h : ∀ d fileId topic, stage ≠ .finalizing d fileId topic) : stage.IsTopical := by
  intro request hr name topic fileId tick heq
  obtain ⟨d, id, t, hs⟩ := Stage.finalizing_of_request (hr.trans (congrArg some heq))
  exact absurd hs (h d id t)

namespace Worker

variable {s s' : Station} {w w' : Worker}

/-- The topic is looked up when all chunks have been sent, and what the worker asks next is asked
under it. At every other step the next request has no topic. -/
theorem Advances.isTopical {answer? : FetchId → Option Answer} (ha : Advances answer? s w s' w')
    (hsafe : Topic.IsSafe s.settings.topic) : w'.stage.IsTopical := by
  cases ha with
  -- here the topic in force goes into the request
  | close =>
    intro request hr
    obtain rfl := Option.some.inj hr
    exact isTopical_finalizeRequest hsafe _ _ _
  | begin hs ht hb => cases hb <;> exact Stage.isTopical_of_ne (by simp)
  | resolve => exact Stage.isTopical_of_ne (by simp [Worker.resolve])
  | _ => exact Stage.isTopical_of_ne (by simp)

/-- An answer leads to the next chunk, to the lookup, or to the end, and none of these is a
request with a topic in it. -/
theorem Receives.isTopical {answer : Answer} (hr : Receives s w answer s' w') :
    w'.stage.IsTopical := by
  have hsend : ∀ d fileId index chunks, (sendFrom d fileId index chunks).IsTopical := by
    intro d fileId index chunks
    cases chunks <;> exact Stage.isTopical_of_ne (by simp [sendFrom])
  cases hr with
  | created => exact hsend _ _ _ _
  | sent => exact hsend _ _ _ _
  | _ => exact Stage.isTopical_of_ne (by simp [deliver])

end Worker

end Upload

namespace Relay

/-- The topic in force is safe, and so is that of everything asked or about to be asked. -/
structure Topical (r : Relay) : Prop where
  inForce : Topic.IsSafe r.station.settings.topic
  running : ∀ e ∈ r.queue.running, e.2.stage.IsTopical
  asked : ∀ x ∈ r.exchanges, x.request.IsTopical

variable {r r' : Relay}

/-- A quiet change touches neither settings nor workers nor exchanges. -/
theorem Topical.of_quiet (hq : Quiet r r') (h : r.Topical) : r'.Topical where
  inForce := hq.settings ▸ h.inForce
  running := hq.queue ▸ h.running
  asked := hq.exchanges ▸ h.asked

/-- A flush hands a job to the queue, where no worker is yet. -/
theorem Topical.flush (h : r.Topical) : r.flush.1.Topical := by
  rcases flush_cases r with ⟨queue, id, hs, he⟩ | he
  · obtain ⟨-, -, rfl⟩ := Upload.Queue.submit_eq_ok hs
    rw [he]
    exact ⟨h.inForce, h.running, h.asked⟩
  · rw [he]
    exact ⟨h.inForce, h.running, h.asked⟩

/-- A new worker begins with no request at all. -/
theorem Topical.dispatch (h : r.Topical) : r.dispatch.Topical := by
  rcases dispatch_cases r with he | ⟨queue, hd, he⟩
  · rwa [he]
  · rw [he]
    refine ⟨h.inForce, fun e hm => ?_, h.asked⟩
    rcases Upload.Queue.mem_running_dispatch hd hm with hm | ⟨job, hnew⟩
    · exact h.running e hm
    · rw [hnew]
      exact Upload.Stage.isTopical_of_ne (by simp [Upload.Worker.start])

/-- A step of a worker that looks the topic up does so while the topic in force is safe. -/
theorem Topical.advance (h : r.Topical) (id : JobId) : (r.advance id).Topical := by
  rcases advance_cases r id with he | ⟨w, s', w', -, ha, he⟩
  · rwa [he]
  · rw [he]
    refine ⟨ha.settings ▸ h.inForce, fun e hm => ?_, h.asked⟩
    rcases Upload.Queue.mem_running_update hm with ⟨hm, -⟩ | rfl
    · exact h.running e hm
    · exact ha.isTopical h.inForce

/-- An exchange that ends was asked under a safe topic, and it is noted as it was asked. -/
theorem Topical.answer (h : r.Topical) (id : JobId) (answer : Answer) :
    (r.answerWorker id answer).Topical := by
  rcases answerWorker_cases r id answer with
    he | ⟨w, s', w', request, file, hw, hreq, -, hr, he⟩
  · rwa [he]
  · rw [he]
    refine ⟨hr.settings ▸ h.inForce, fun e hm => ?_, fun x hx => ?_⟩
    · rcases Upload.Queue.mem_running_update hm with ⟨hm, -⟩ | rfl
      · exact h.running e hm
      · exact hr.isTopical
    · rcases List.mem_append.1 hx with hx | hx
      · exact h.asked x hx
      · obtain rfl := List.mem_singleton.1 hx
        exact h.running _ hw request hreq

/-- Every move keeps the topics safe. The nine cases are those of `Upholds`, in its order. -/
theorem Topical.move (h : r.Topical) (m : Move) : (r.move m).Topical := by
  refine move_keeps ⟨?_, ?_, ?_, ?_, ?_, ?_, ?_, ?_, ?_⟩ h
  · intro r r' hq h
    exact h.of_quiet hq
  · intro r h
    exact ⟨h.inForce, h.running, h.asked⟩
  · intro r h
    exact ⟨h.inForce, h.running, h.asked⟩
  · intro r h
    exact h.flush
  · intro name node _ h
    rcases record_cases r name node with he | ⟨folder, disk, -, -, he⟩
    · rwa [he]
    · rw [he]
      exact ⟨h.inForce, h.running, h.asked⟩
  · intro _ h
    exact h.dispatch
  · intro id _ h
    exact h.advance id
  · intro id answer _ h
    exact h.answer id answer
  · intro _ h
    exact ⟨h.inForce, h.running, h.asked⟩

/-- Other settings with a safe topic: what was looked up before is still safe. -/
theorem Topical.withSettings (h : r.Topical) {settings : Settings}
    (hsafe : Topic.IsSafe settings.topic) : (r.withSettings settings).Topical :=
  ⟨hsafe, h.running, h.asked⟩

/-- A call of the control API is a change of the settings, or one of the quiet changes, or
refused. -/
theorem Topical.serve (h : r.Topical) (now : Instant) (call : Control.Call) :
    (Control.serve r now call).1.Topical := by
  rcases Control.serve_cases r now call with ⟨operation, -, he, -⟩ | ⟨-, he, -⟩
  · rw [he]
    cases operation with
    | keep => exact h
    | configure update => exact h.withSettings (update.isSafe_apply h.inForce)
    | setName user name => exact h.of_quiet (quiet_setName r user name)
    | speech user => exact h.of_quiet (quiet_reportSpeech r user now)
    | notify => exact h.of_quiet (quiet_notify r)
  · rwa [he]

/-- In the beginning there is no worker and no exchange. -/
theorem topical_startOn (disk : Disk) (options : Options) {settings : Settings}
    (hsafe : Topic.IsSafe settings.topic) (recorder : Recorder) :
    (startOn disk options settings recorder).Topical :=
  ⟨hsafe, fun _ he => absurd he List.not_mem_nil, fun _ hx => absurd hx List.not_mem_nil⟩

/-- By induction on the way to a state: it begins with a safe topic, and each change keeps the
topics safe. -/
theorem Reached.topical (h : r.Reached) : r.Topical := by
  induction h with
  | start disk options host port topic recorder =>
    exact topical_startOn disk options (Settings.isSafe_startTopic topic) recorder
  | configured disk options c a recorder =>
    exact topical_startOn disk options (a.isSafe_settings c) recorder
  | setHost _ host ih => exact ih.withSettings ih.inForce
  | setPort _ port ih => exact ih.withSettings ih.inForce
  | setTopic _ topic ih => exact ih.withSettings (Settings.isSafe_setTopic ih.inForce topic)
  | serve _ now call ih => exact ih.serve now call
  | move _ m ih => exact ih.move m

/-- A worker asks this or has asked it. -/
def Asks (r : Relay) (request : Request) : Prop :=
  (∃ e ∈ r.queue.running, e.2.stage.request? = some request) ∨
    ∃ x ∈ r.exchanges, x.request = request

/-- What is asked or was asked is covered by the invariant. -/
theorem Topical.of_asks {request : Request} (h : r.Topical) (hr : r.Asks request) :
    request.IsTopical := by
  rcases hr with ⟨e, he, hreq⟩ | ⟨x, hx, rfl⟩
  · exact h.running e he request hreq
  · exact h.asked x hx

end Relay

/-! ## Addresses -/

/-- The pieces that a path has between its slashes. -/
def Url.Segments.split (path : List Char) : List (List Char) := Text.split '/' path.tail

/-- Between the slashes of a path stand the pieces of its segments. -/
theorem Url.Segments.split_path (segments : List String) :
    split (path segments) = pieces segments := split_join_pieces segments

/-- A request is sent to one address only. -/
theorem Settings.Sends.unique {s : Settings} {request : Request} {p p' : Url.Parts}
    (h : s.Sends request p) (h' : s.Sends request p') : p = p' := by
  obtain ⟨a, ha, hread⟩ := h
  obtain ⟨a', ha', hread'⟩ := h'
  rw [ha] at ha'
  cases ha'
  rw [hread] at hread'
  exact Option.some.inj hread'

namespace Upload

open Url.Segments

variable {topic : String}

/-- What comes before the topic in the path of an upload. -/
def segmentsBefore (name : String) : List String :=
  ["chat", "sendTranscribedAudioFile", "from", name]

/-- Whatever the name is, the path goes on from where the backend takes uploads. -/
theorem exists_pieces_segmentsBefore (name : String) :
    ∃ more, pieces (segmentsBefore name) = "chat".toList :: more := by
  have hfixed : pieces ["chat", "sendTranscribedAudioFile", "from"] =
      ["chat".toList, "sendTranscribedAudioFile".toList, "from".toList] := by decide +kernel
  have hsplit : segmentsBefore name = ["chat", "sendTranscribedAudioFile", "from"] ++ [name] := rfl
  rw [hsplit, pieces_append, hfixed]
  cases hskipped : isSkipped name with
  | true => exact ⟨_, by rw [List.filter_cons_of_neg (by simp [hskipped])]; rfl⟩
  | false =>
    rw [List.filter_cons_of_pos (by simp [hskipped])]
    exact exists_put (by simp) (by decide) _

/-- A text of letters and digits is no letter of a disk, which the library for addresses would
treat apart: that needs a colon or a bar. -/
theorem isDisk_of_isAlphanum (h : ∀ c ∈ topic.toList, c.isAlphanum = true) :
    isDisk topic.toList = false := by
  unfold isDisk
  split
  · next letter mark heq =>
    have hmark : mark.isAlphanum = true := h mark (by rw [heq]; simp)
    have hcolon : mark ≠ ':' := by
      rintro rfl
      exact absurd hmark (by decide)
    have hbar : mark ≠ '|' := by
      rintro rfl
      exact absurd hmark (by decide)
    simp [hcolon, hbar]
  · rfl

/-- In the path of an upload the topic stands as it is, behind whatever the name makes of the path,
exactly if the file id does not climb. -/
theorem topic_stays_iff (h : Topic.IsSafe topic) (name fileId : String) (tick : TickData) :
    pieces (segmentsBefore name) ++ [topic.toList] <+:
        pieces (finalizeRequest name topic fileId tick).segments ↔
      ¬ Climbs fileId := by
  obtain ⟨more, hbefore⟩ := exists_pieces_segmentsBefore name
  have hintact : Intact topic := intact_of_forall h.alphanumeric (by decide)
  have hwritten := write_of_isAlphanum h.alphanumeric
  have hwav : ∀ s ∈ ["wav"], ¬ Climbs s := by decide +kernel
  have hsegments : (finalizeRequest name topic fileId tick).segments =
      segmentsBefore name ++ topic :: fileId :: ["wav"] := segments_finalizeRequest _ _ _ _
  rw [hsegments]
  constructor
  · -- what climbs takes the topic away, so behind the name comes an empty piece, which no topic is
    intro hstays hclimbs
    obtain ⟨back, hback⟩ := pieces_of_climbs hbefore (by decide) hintact
      (by rw [hwritten]; exact isDisk_of_isAlphanum h.alphanumeric) hclimbs hwav
    rw [hback, List.prefix_append_right_inj, List.singleton_prefix_cons_iff] at hstays
    exact h.nonempty (String.toList_injective hstays)
  · -- nothing behind the topic climbs, so all pieces in front of it stay
    intro hstays
    have hafter : ∀ s ∈ fileId :: ["wav"], ¬ Climbs s := List.forall_mem_cons.2 ⟨hstays, hwav⟩
    obtain ⟨back, hback⟩ := pieces_of_stays hbefore (by decide) hintact hafter
    rw [hback, hwritten]
    exact ⟨back, by rw [List.append_assoc, List.singleton_append]⟩

end Upload

namespace Relay

open Url (Base)
open Url.Segments (split path Climbs)
open Upload (finalizeRequest segmentsBefore)

/-- Of a text, sanitising keeps the first hundred ASCII letters and digits, and doing it again
changes nothing.  In every state that the relay can get into the topic in force is safe; a topic is
refused exactly if nothing is left of it, and then nothing changes.  Every upload goes to an address
in which the topic stands unescaped as a segment of its own, right behind the name, exactly if the
file id is not two dots with tabs or line breaks among them. -/
theorem safe_topics (text : String) {r : Relay} (hr : Reached r) :
    (Topic.sanitise text).toList = (text.toList.filter Char.isAlphanum).take 100 ∧
      Topic.sanitise (Topic.sanitise text) = Topic.sanitise text ∧
      Topic.IsSafe r.station.settings.topic ∧
      (Settings.acceptsTopic text = false ↔ Topic.sanitise text = "") ∧
      (r.station.settings.setTopic text =
        if Settings.acceptsTopic text then
          { r.station.settings with topic := Topic.sanitise text }
        else r.station.settings) ∧
      ∀ name topic fileId tick, r.Asks (finalizeRequest name topic fileId tick) →
        Topic.IsSafe topic ∧ ∀ (s : Settings) (b : Base), Base.parse s.host s.port = .ok b →
          ∃ p : Url.Parts, s.Sends (finalizeRequest name topic fileId tick) p ∧
            (split (path (segmentsBefore name)) ++ [topic.toList] <+: split p.path ↔
              ¬ Climbs fileId) := by
  have htopical := hr.topical
  refine ⟨Topic.toList_sanitise text, Topic.sanitise_sanitise text, htopical.inForce,
    Settings.acceptsTopic_eq_false_iff text, rfl, ?_⟩
  intro name topic fileId tick hasks
  have hsafe : Topic.IsSafe topic := htopical.of_asks hasks name topic fileId tick rfl
  refine ⟨hsafe, fun s b hb => ⟨_, s.sends hb _, ?_⟩⟩
  have hpath : ((finalizeRequest name topic fileId tick).parts b).path =
      path (finalizeRequest name topic fileId tick).segments := rfl
  rw [hpath, Url.Segments.split_path, Url.Segments.split_path]
  exact Upload.topic_stays_iff hsafe name fileId tick

/-- The moves of a run lead on from any state. -/
theorem Reached.run {r : Relay} (h : r.Reached) (moves : List Move) : (r.run moves).Reached := by
  induction moves generalizing r with
  | nil => exact h
  | cons m later ih => exact ih (h.move m)

/-- The file of the sample, up to where it is put into the chat, after the answer `created` to
its creation. The answer brings the id of the file, which is all that varies. -/
def filed (created : String) : Relay :=
  (startOn .blank sample.options ⟨"localhost", 8080, "RADIO"⟩ sample.recorder).run
    (sampleMoves.take 12 ++ [.answer 0 (.body created), .answer 0 (.body ""), .advance 0])

/-- The run begins with a topic that sanitising leaves as it is. -/
theorem reached_filed (created : String) : (filed created).Reached := by
  have hsettings : Settings.start "localhost" 8080 "RADIO" = ⟨"localhost", 8080, "RADIO"⟩ := by
    decide
  have hstart := Reached.start .blank sample.options "localhost" 8080 "RADIO" sample.recorder
  rw [hsettings] at hstart
  exact hstart.run _

/-- A worker whose stage has a request is asking it. -/
theorem asks_of_running {r : Relay} {request : Request}
    (h : r.queue.running.map (fun e => e.2.stage.request?) = [some request]) :
    r.Asks request := by
  have hmem : some request ∈ r.queue.running.map fun e => e.2.stage.request? := by
    rw [h]
    exact List.mem_singleton_self _
  obtain ⟨e, he, hrequest⟩ := List.mem_map.1 hmem
  exact Or.inl ⟨e, he, hrequest⟩

/-- The standard host and port make an address. -/
theorem parse_standard : Base.parse Settings.standard.host Settings.standard.port =
    .ok ⟨[], .name ["localhost".toList], some 8080, none, none⟩ :=
  Base.parse_eq_ok (by decide +kernel)

theorem safe_topics_sample : ∃ r, Reached r ∧
    r.Asks (finalizeRequest "User1" "RADIO" "x" ⟨some 3, some 4⟩) ∧ Topic.IsSafe "RADIO" ∧
    ∃ p : Url.Parts,
      Settings.standard.Sends (finalizeRequest "User1" "RADIO" "x" ⟨some 3, some 4⟩) p ∧
        split (path (segmentsBefore "User1")) ++ ["RADIO".toList] <+: split p.path := by
  have hasks : (filed "\x7b\"fileId\":\"x\"\x7d").Asks
      (finalizeRequest "User1" "RADIO" "x" ⟨some 3, some 4⟩) := asks_of_running (by cbv)
  -- the id of this file is a letter, which does not climb
  obtain ⟨-, -, -, -, -, hurl⟩ := safe_topics "RADIO" (reached_filed _)
  obtain ⟨hsafe, hsent⟩ := hurl _ _ _ _ hasks
  obtain ⟨p, hsends, hstays⟩ := hsent .standard _ parse_standard
  exact ⟨_, reached_filed _, hasks, hsafe, p, hsends, hstays.2 (by decide +kernel)⟩

/-- A file id of two dots with a tab between them takes the topic out of the address. -/
theorem topic_lost_behind_climbing_id : ¬ ∀ r, Reached r →
    ∀ name topic fileId tick, r.Asks (finalizeRequest name topic fileId tick) →
      ∀ (s : Settings) (b : Base), Base.parse s.host s.port = .ok b →
        ∃ p : Url.Parts, s.Sends (finalizeRequest name topic fileId tick) p ∧
          topic.toList ∈ split p.path := by
  intro hall
  have hasks : (filed "\x7b\"fileId\":\".\\t.\"\x7d").Asks
      (finalizeRequest "User1" "RADIO" ".\t." ⟨some 3, some 4⟩) := asks_of_running (by cbv)
  obtain ⟨p, hsends, hmem⟩ := hall _ (reached_filed _) _ _ _ _ hasks .standard _ parse_standard
  obtain rfl := hsends.unique (Settings.sends parse_standard _)
  rw [Request.parts, Url.Segments.split_path, Upload.segments_finalizeRequest] at hmem
  have hpieces : Url.Segments.pieces
      ["chat", "sendTranscribedAudioFile", "from", "User1", "RADIO", ".\t.", "wav"] =
      ["chat".toList, "sendTranscribedAudioFile".toList, "from".toList, "User1".toList, [],
        "wav".toList] := by decide +kernel
  -- where the topic stood there is an empty piece
  rw [hpieces] at hmem
  exact absurd hmem (by decide)

end Relay

end PushToTalk
