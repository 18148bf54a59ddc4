import PushToTalk.Proofs.Url.Parts
import PushToTalk.Sending
import PushToTalk.Upload.Worker

/-
  Where requests go.

  The texts in a request come from outside: names of users, ids of files, whatever a caller puts
  into a query.  None of them may change where the request goes or what else it says.  Both are read
  off the text of the address, taken apart at its marks (`Parts.read?`), which knows nothing of how
  the address was put together.

  1. **Addresses** — every request is sent to an address that can be taken apart, and the parts are
     those of the base, the segments and the pairs (`Settings.sends`).  A mark of one part must not
     stand in another; for the query this is `Address.number_sign_not_mem_joinQuery`.

  2. **In its place** — segments and query stay in their parts of the address: what says where is
     that of the base, the query gives back the pairs of the request, and neither the path nor the
     query depends on the other (`Settings.segments_and_query_in_place`).

  3. **The path of an upload** — the path gives back the segments of the request exactly if name and
     id are intact: no dots alone, no tab or line break (`Upload.path_read_back_iff`).  All other
     segments are fixed words, numerals and the topic, which has letters and digits only.  A name of
     two dots is lost from the path, and a tab in a name is lost from the name
     (`Upload.names_lost_on_the_way`).

  How a host is read, and what is done to a segment, is the matter of `Url.Host` and `Url.Path`.

  Main statements: `Settings.segments_and_query_in_place` and `Upload.path_read_back_iff`.
-/

namespace PushToTalk

open Url

/-- Taken apart, the address of a request has these parts. -/
def Settings.Sends (s : Settings) (r : Request) (p : Parts) : Prop :=
  ∃ a, s.address r = .ok a ∧ Parts.read? a.text = some p

/-- The parts of the address of a request. -/
def Request.parts (r : Request) (b : Base) : Parts :=
  { scheme := "http".toList
    user := b.user?
    host := b.host.text
    port := b.portText?
    path := Segments.path r.segments
    query := Address.joinQuery b.query r.query
    fragment := b.fragment }

variable {s : Settings} {b : Base} {r r₁ r₂ : Request}

/-! ## Addresses -/

/-- A request goes to an address below the base, if host and port make one. -/
theorem Settings.address_of_parse (h : Base.parse s.host s.port = .ok b) (r : Request) :
    s.address r = .ok (.ofRequest b r) := by
  rw [Settings.address, h]

/-- There is no number sign in a query, unless the base has brought one along; so nothing in it
is taken for a fragment. -/
theorem Url.Address.number_sign_not_mem_joinQuery {base : Option (List Char)}
    (h : ∀ q, base = some q → '#' ∉ q) (pairs : List (String × String)) :
    ∀ q, joinQuery base pairs = some q → '#' ∉ q := by
  intro q hq
  unfold joinQuery at hq
  split at hq
  · exact h q hq
  · split at hq
    · cases hq
      exact Form.number_sign_not_mem_write
    · cases hq
      exact Form.number_sign_not_mem_write
    · next front _ =>
      cases hq
      intro hm
      rcases List.mem_append.1 hm with hm | hm
      · exact h front rfl hm
      · rcases List.mem_cons.1 hm with hm | hm
        · exact absurd hm (by decide)
        · exact Form.number_sign_not_mem_write hm

/-- Every request is sent to an address with its parts. -/
theorem Settings.sends (h : Base.parse s.host s.port = .ok b) (r : Request) :
    s.Sends r (r.parts b) := by
  have hspelled := Base.spelled_of_parse h
  refine ⟨.ofRequest b r, s.address_of_parse h r, ?_⟩
  exact Parts.read?_text hspelled
    (Address.number_sign_not_mem_joinQuery hspelled.query r.query)

/-- A base that is computed as an option is the one that is parsed. -/
theorem Url.Base.parse_eq_ok {host : String} {port : UInt16}
    (h : (Base.parse host port).toOption = some b) : Base.parse host port = .ok b := by
  cases hparse : Base.parse host port with
  | error flaw =>
    rw [hparse] at h
    cases h
  | ok found =>
    rw [hparse] at h
    cases h
    rfl

/-! ## In its place -/

/-- An address carries a request to the place of a base: scheme, user, host and port are those of
the base, there is no fragment, and the query is there if there are pairs and gives them back. -/
structure Url.Parts.Carries (p : Parts) (b : Base) (r : Request) : Prop where
  scheme : p.scheme = "http".toList
  user : p.user = b.user?
  host : p.host = b.host.text
  port : p.port = b.portText?
  fragment : p.fragment = none
  absent : p.query = none ↔ r.query = []
  form : ∀ q, p.query = some q → Form.read? q = some r.query

/-- The parts of an address below a base without query and fragment carry the request. -/
theorem Request.carries (hquery : b.query = none) (hfragment : b.fragment = none) (r : Request) :
    (r.parts b).Carries b r := by
  have hjoin : (r.parts b).query = Address.joinQuery none r.query := by rw [parts, hquery]
  refine ⟨rfl, rfl, rfl, rfl, hfragment, ?_, ?_⟩
  · rw [hjoin]
    cases r.query <;> simp [Address.joinQuery]
  · intro q hq
    rw [hjoin] at hq
    cases hpairs : r.query with
    | nil =>
      rw [hpairs] at hq
      cases hq
    | cons pair rest =>
      rw [hpairs] at hq
      cases hq
      exact Form.read?_write (by simp)

/-- Below a base address without query and fragment, two requests with whatever segments and pairs
are sent to the place that the base says; each query gives back the pairs of its request, it does
not depend on the segments, and the path does not depend on the pairs. -/
theorem Settings.segments_and_query_in_place (h : Base.parse s.host s.port = .ok b)
    (hquery : b.query = none) (hfragment : b.fragment = none) (r₁ r₂ : Request) :
    ∃ p₁ p₂, s.Sends r₁ p₁ ∧ s.Sends r₂ p₂ ∧ p₁.Carries b r₁ ∧ p₂.Carries b r₂ ∧
      (r₁.query = r₂.query → p₁.query = p₂.query) ∧
      (r₁.segments = r₂.segments → p₁.path = p₂.path) := by
  refine ⟨r₁.parts b, r₂.parts b, s.sends h r₁, s.sends h r₂, r₁.carries hquery hfragment,
    r₂.carries hquery hfragment, ?_, ?_⟩
  · intro hsame
    show Address.joinQuery b.query r₁.query = Address.joinQuery b.query r₂.query
    rw [hsame]
  · intro hsame
    show Segments.path r₁.segments = Segments.path r₂.segments
    rw [hsame]

/-- Segments and pairs with marks in them, below a base with a user, whose host is the short form
of an IPv4 address. -/
theorem Settings.segments_and_query_in_place_sample :
    let s := Settings.start "me:x@127.1" 9001 "RADIO"
    let b : Base := ⟨"me:x@".toList, .ipv4 2130706433, some 9001, none, none⟩
    let r₁ := (Request.make .get ["a/b", "#", "c?d=e", "@"]).withQuery "k&=" "v#+ %"
    let r₂ := Request.make .get []
    Base.parse s.host s.port = .ok b ∧ b.query = none ∧ b.fragment = none ∧
      ∃ p₁ p₂, s.Sends r₁ p₁ ∧ s.Sends r₂ p₂ ∧ p₁.Carries b r₁ ∧ p₂.Carries b r₂ ∧
        (r₁.query = r₂.query → p₁.query = p₂.query) ∧
        (r₁.segments = r₂.segments → p₁.path = p₂.path) := by
  intro s b r₁ r₂
  have hb : Base.parse s.host s.port = .ok b := Base.parse_eq_ok (by decide +kernel)
  exact ⟨hb, rfl, rfl, segments_and_query_in_place hb rfl rfl r₁ r₂⟩

/-! ## Uploads -/

/-- Settings as they come to be in force. -/
inductive Settings.InForce : Settings → Prop
  | start (host : String) (port : UInt16) (topic : String) : InForce (.start host port topic)
  | setHost {s : Settings} (h : s.InForce) (host : String) : InForce (s.setHost host)
  | setPort {s : Settings} (h : s.InForce) (port : UInt16) : InForce (s.setPort port)
  | setTopic {s : Settings} (h : s.InForce) (topic : String) : InForce (s.setTopic topic)

/-- What is left of a topic can be used. -/
theorem Topic.isUsable_of_mem_sanitise {text : String} {c : Char}
    (h : c ∈ (sanitise text).toList) : isUsable c = true := by
  rw [sanitise, String.toList_ofList] at h
  exact (List.mem_filter.1 (List.mem_of_mem_take h)).2

/-- The topic in force has letters and digits only. -/
theorem Settings.InForce.usable (h : s.InForce) : ∀ c ∈ s.topic.toList, Topic.isUsable c = true := by
  induction h with
  | start host port topic =>
    show ∀ c ∈ (startTopic topic).toList, Topic.isUsable c = true
    unfold startTopic
    split
    · -- where nothing is left of the topic, the standard one is in force
      have hstandard : Topic.sanitise Topic.standard = Topic.standard := by decide
      rw [← hstandard]
      exact fun c hc => Topic.isUsable_of_mem_sanitise hc
    · exact fun c hc => Topic.isUsable_of_mem_sanitise hc
  | setHost _ _ ih => exact ih
  | setPort _ _ ih => exact ih
  | setTopic _ topic ih =>
    unfold Settings.setTopic
    split
    · exact fun c hc => Topic.isUsable_of_mem_sanitise hc
    · exact ih

namespace Upload

open Segments

/-- The requests of uploads, with the names and ids that they are made of. -/
inductive Asks : List String → Request → Prop
  | create (count : Nat) : Asks [] (createRequest count)
  | chunk (fileId : String) (index : Nat) (bytes : Bytes) :
    Asks [fileId] (chunkRequest fileId index bytes)
  | finalize (name fileId : String) (tick : TickData) {told : Settings} (h : told.InForce) :
    Asks [name, fileId] (finalizeRequest name told.topic fileId tick)

/-- The segments of a finalize request, whether a tick is known or not. -/
theorem segments_finalizeRequest (name topic fileId : String) (tick : TickData) :
    (finalizeRequest name topic fileId tick).segments =
      ["chat", "sendTranscribedAudioFile", "from", name, topic, fileId, "wav"] := by
  unfold finalizeRequest
  split <;> rfl

/-- Numerals are intact. -/
theorem intact_numeral (n : Nat) : Intact (Text.Numeral.ofNat n) := by
  apply intact_of_forall (p := Text.Numeral.isDigit)
  · rw [Text.Numeral.ofNat, String.toList_ofList]
    exact Text.Numeral.isDigit_of_mem_digits n
  · decide

/-- The segments of a request are intact if its names and ids are: all others are fixed words,
numerals and the topic. -/
theorem Asks.intact_iff {given : List String} (h : Asks given r) :
    (∀ t ∈ r.segments, Intact t) ↔ ∀ t ∈ given, Intact t := by
  cases h with
  | create count =>
    have hword : Intact "createFile" := by decide +kernel
    simp [createRequest, Request.make, hword, intact_numeral]
  | chunk fileId index bytes =>
    have hword : Intact "fileChunk" := by decide +kernel
    simp [chunkRequest, Request.make, Request.withBytes, hword, intact_numeral]
  | finalize name fileId tick htold =>
    have htopic := intact_of_forall htold.usable (by decide)
    have hwords : Intact "chat" ∧ Intact "sendTranscribedAudioFile" ∧ Intact "from" ∧
        Intact "wav" := by decide +kernel
    simp [segments_finalizeRequest, hwords, htopic]

/-- No request of an upload begins with an empty segment. -/
theorem Asks.segments_eq {given : List String} (h : Asks given r) :
    ∃ first rest, r.segments = first :: rest ∧ first ≠ "" := by
  cases h with
  | create count => exact ⟨_, _, rfl, by decide⟩
  | chunk fileId index bytes => exact ⟨_, _, rfl, by decide⟩
  | finalize name fileId tick htold => exact ⟨_, _, segments_finalizeRequest _ _ _ _, by decide⟩

/-- The path of an upload gives back the segments of its request if names and ids are intact, and
only then. -/
theorem Asks.read?_path_iff {given : List String} (h : Asks given r) :
    read? (path r.segments) = some r.segments ↔ ∀ t ∈ given, Intact t := by
  obtain ⟨first, rest, hsegments, hfirst⟩ := h.segments_eq
  rw [← h.intact_iff, hsegments]
  exact read?_path_eq_some_iff hfirst

/-- The path of an upload gives back the segments of its request exactly if the names and ids in it
are intact; so two requests with intact names and ids have one path only if their segments are the
same. -/
theorem path_read_back_iff (h : Base.parse s.host s.port = .ok b) {given₁ given₂ : List String}
    (h₁ : Asks given₁ r₁) (h₂ : Asks given₂ r₂) :
    ∃ p₁ p₂, s.Sends r₁ p₁ ∧ s.Sends r₂ p₂ ∧
      (read? p₁.path = some r₁.segments ↔ ∀ t ∈ given₁, Intact t) ∧
      (read? p₂.path = some r₂.segments ↔ ∀ t ∈ given₂, Intact t) ∧
      ((∀ t ∈ given₁ ++ given₂, Intact t) → p₁.path = p₂.path → r₁.segments = r₂.segments) := by
  refine ⟨r₁.parts b, r₂.parts b, s.sends h r₁, s.sends h r₂, h₁.read?_path_iff,
    h₂.read?_path_iff, ?_⟩
  intro hintact hsame
  have hread₁ : read? (path r₁.segments) = some r₁.segments :=
    h₁.read?_path_iff.2 fun t ht => hintact t (List.mem_append_left _ ht)
  have hread₂ : read? (path r₂.segments) = some r₂.segments :=
    h₂.read?_path_iff.2 fun t ht => hintact t (List.mem_append_right _ ht)
  have hpaths : path r₁.segments = path r₂.segments := hsame
  rw [hpaths, hread₂] at hread₁
  exact (Option.some.inj hread₁).symm

/-- A name with slashes, dots and a question mark in it is intact: its dots do not stand alone,
as the slashes beside them are encoded. -/
theorem path_read_back_iff_sample :
    let s := Settings.start "backend.local" 9001 "RADIO"
    let b : Base := ⟨[], .name ["backend".toList, "local".toList], some 9001, none, none⟩
    let r₁ := finalizeRequest "Jane/../Doe?" s.topic "f#0" .unknown
    let r₂ := chunkRequest "f/0" 12 []
    Base.parse s.host s.port = .ok b ∧ Asks ["Jane/../Doe?", "f#0"] r₁ ∧ Asks ["f/0"] r₂ ∧
      ∃ p₁ p₂, s.Sends r₁ p₁ ∧ s.Sends r₂ p₂ ∧
        (read? p₁.path = some r₁.segments ↔ ∀ t ∈ ["Jane/../Doe?", "f#0"], Intact t) ∧
        (read? p₂.path = some r₂.segments ↔ ∀ t ∈ ["f/0"], Intact t) ∧
        ((∀ t ∈ ["Jane/../Doe?", "f#0"] ++ ["f/0"], Intact t) → p₁.path = p₂.path →
          r₁.segments = r₂.segments) := by
  intro s b r₁ r₂
  have hb : Base.parse s.host s.port = .ok b := Base.parse_eq_ok (by decide +kernel)
  have h₁ : Asks ["Jane/../Doe?", "f#0"] r₁ := .finalize _ _ _ (.start _ _ _)
  have h₂ : Asks ["f/0"] r₂ := .chunk _ _ _
  exact ⟨hb, h₁, h₂, path_read_back_iff hb h₁ h₂⟩

/-- A name of two dots is no segment of the path any more, and a name with a tab in it has the same
address as the name without. -/
theorem names_lost_on_the_way :
    let s := Settings.start "backend.local" 9001 "RADIO"
    let r := fun name => finalizeRequest name s.topic "f0" .unknown
    (∃ b, Base.parse s.host s.port = .ok b ∧ b.query = none ∧ b.fragment = none) ∧
      (∃ p, s.Sends (r "..") p ∧ read? p.path =
        some ["chat", "sendTranscribedAudioFile", "from", "RADIO", "f0", "wav"]) ∧
      (r "a\tb").segments ≠ (r "ab").segments ∧ (s.address (r "a\tb")).map Address.text =
        .ok "http://backend.local:9001/chat/sendTranscribedAudioFile/from/ab/RADIO/f0/wav" ∧
      (s.address (r "ab")).map Address.text =
        .ok "http://backend.local:9001/chat/sendTranscribedAudioFile/from/ab/RADIO/f0/wav" := by
  intro s r
  have hb : Base.parse s.host s.port =
      .ok ⟨[], .name ["backend".toList, "local".toList], some 9001, none, none⟩ :=
    Base.parse_eq_ok (by decide +kernel)
  refine ⟨⟨_, hb, rfl, rfl⟩, ⟨_, s.sends hb (r ".."), by decide +kernel⟩, by decide, ?_, ?_⟩
  · rw [s.address_of_parse hb]
    exact congrArg Except.ok (by decide +kernel)
  · rw [s.address_of_parse hb]
    exact congrArg Except.ok (by decide +kernel)

end Upload

end PushToTalk
