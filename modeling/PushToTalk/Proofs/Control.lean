import PushToTalk.Control
import PushToTalk.Proofs.Json.Record

/-
  What a call of the control API does.

  The host drives the relay by calls from outside, and it has to rely on two things: a call that is
  told of success has done all of what it asks for, and any other call has done nothing at all.  A
  call asks for one operation of the relay, or for none.  `Asks` says for which, from the path, the
  method and what the call carries; decoding a call finds out the same, step by step, and rejects at
  the first step that fails.  So a call is answered with success exactly if it asks for an
  operation, that operation is all that happens, and any other call changes nothing.

  1. **Routes** (`Route.find?_eq_some_iff`) — the paths of the API and no others are found, and a
     user id is what stands between two slashes.

  2. **What a call carries** (`ConfigUpdate.values_ofFields`) — the fields of a body are texts and
     ports, so that nothing is lost when they become an update.  This is what was proved of records
     in general: whatever was read fits the fields of its shape.

  3. **Decoding** (`sound_decode`, `decode_of_asks`) — what is decoded is asked for, and the other
     way round.  `Sound` is one statement for both outcomes, so that the steps of decoding are gone
     through once.

  4. **Serving** (`serve_cases`) — hence there are two cases, and `Served` is read off them.

  What the operations do to the relay in the long run is not said here; the modules under `Relay`
  take each of them as one step.

  Main statement: `served`.
-/

namespace PushToTalk.Control

/-! ## Routes -/

/-- The user id in a route, as it stands in the path. -/
def Route.user : Route → String
  | .userName user | .userSpeech user => user
  | _ => ""

/-- The path of a route. -/
def Route.path : Route → String
  | .health => "/health"
  | .config => "/config"
  | .status => "/status"
  | .userName user => "/users/" ++ user ++ "/name"
  | .userSpeech user => "/users/" ++ user ++ "/speech"
  | .recordingStopped => "/recording/stopped"

/-- The pieces of a path between its slashes. -/
def Route.pieces : Route → List String
  | .health => ["", "health"]
  | .config => ["", "config"]
  | .status => ["", "status"]
  | .userName user => ["", "users", user, "name"]
  | .userSpeech user => ["", "users", user, "speech"]
  | .recordingStopped => ["", "recording", "stopped"]

/-- The pieces with slashes between them are the path. -/
theorem Route.join_pieces (route : Route) :
    Text.join '/' (route.pieces.map String.toList) = route.path.toList := by
  cases route <;> simp [pieces, path, Text.join]

/-- The user id is a piece of its own; where there is none, the empty piece in front of the path
stands for it. -/
theorem Route.user_mem_pieces (route : Route) : route.user ∈ route.pieces := by
  cases route <;> simp [user, pieces]

/-- If there is no slash in the user id, there is none in any piece. -/
theorem Route.slash_not_mem {route : Route} (huser : '/' ∉ route.user.toList) :
    ∀ piece ∈ route.pieces.map String.toList, '/' ∉ piece := by
  cases route with
  | userName text => simpa [pieces, user] using huser
  | userSpeech text => simpa [pieces, user] using huser
  | _ => simp [pieces]

/-- A path is that of a route exactly if its pieces are. -/
theorem Route.split_eq_pieces_iff (route : Route) (cs : List Char) :
    (Text.split '/' cs).map String.ofList = route.pieces ↔
      cs = route.path.toList ∧ '/' ∉ route.user.toList := by
  constructor
  · intro h
    have hsplit : Text.split '/' cs = route.pieces.map String.toList := by
      rw [← h, List.map_map]
      simp [Function.comp_def]
    constructor
    · rw [← Text.join_split '/' cs, hsplit, route.join_pieces]
    · refine Text.not_mem_of_mem_split (s := cs) ?_
      rw [hsplit]
      exact List.mem_map_of_mem route.user_mem_pieces
  · rintro ⟨rfl, huser⟩
    have hne : route.pieces.map String.toList ≠ [] := by cases route <;> simp [pieces]
    rw [← route.join_pieces, Text.split_join hne (slash_not_mem huser), List.map_map]
    simp [Function.comp_def]

/-- A route is found exactly for its path. -/
theorem Route.find?_eq_some_iff (uri : String) (route : Route) : Route.find? uri = some route ↔
    pathOf uri = route.path.toList ∧ '/' ∉ route.user.toList := by
  rw [← split_eq_pieces_iff]
  unfold find?
  constructor
  · intro h
    split at h
    · next he => cases h; exact he
    · next he => cases h; exact he
    · next he => cases h; exact he
    · next he => cases h; exact he
    · next he => cases h; exact he
    · next he => cases h; exact he
    · cases h
  · intro h
    rw [h]
    cases route <;> rfl

/-! ## What a call carries -/

/-- A call carries a record: its body is said to be JSON, is not too large, and gives the values
of the fields. -/
structure Call.Carries (call : Call) (shape : Json.Shape) (fields : List (Option Json.Scalar)) :
    Prop where
  type : ∃ type, call.contentType = some type ∧ MediaType.isJson type = true
  size : call.body.utf8ByteSize ≤ bodyLimit
  body : shape.parseFront call.body = .ok fields

variable {call : Call} {shape : Json.Shape} {fields : List (Option Json.Scalar)}

/-- What is decoded from a body is what the call carries. -/
theorem decodeBody_eq_ok_iff : decodeBody shape call = .ok fields ↔ call.Carries shape fields := by
  unfold decodeBody
  constructor
  · intro h
    split at h
    · cases h
    · next htype =>
      split at h
      · cases h
      · next hsize =>
        split at h
        · -- type and size are checked before the body is looked at
          next fields' hbody =>
          cases h
          refine ⟨?_, Nat.le_of_not_lt hsize, hbody⟩
          cases ht : call.contentType with
          | none => simp [ht] at htype
          | some type => exact ⟨type, rfl, by simpa [ht] using htype⟩
        · cases h
  · rintro ⟨⟨type, ht, hjson⟩, hsize, hbody⟩
    rw [if_neg (by simp [ht, hjson]), if_neg (Nat.not_lt_of_le hsize), hbody]

/-- The values of the fields that make an update. -/
def ConfigUpdate.values (u : ConfigUpdate) : List (Option Json.Scalar) :=
  [u.host.map .text, u.port.map fun port => .integer port.toNat, u.topic.map .text]

/-- The values of an update make that update again. -/
theorem ConfigUpdate.ofFields_values (u : ConfigUpdate) : ofFields u.values = u := by
  obtain ⟨host, port, topic⟩ := u
  cases host <;> cases port <;> cases topic <;> simp [values, ofFields, textOf, portOf]

/-- What a text field holds is a text. -/
theorem textOf_map {f : Json.Field} (hkind : f.kind = .text) {v : Option Json.Scalar}
    (h : f.Fits v) : (textOf v).map .text = v := by
  match v with
  | none => rfl
  | some (.text _) => rfl
  | some (.integer n) =>
    obtain ⟨low, high, name, hk, -⟩ := h
    rw [hkind] at hk
    cases hk

/-- What a port field holds is a port. -/
theorem portOf_map {f : Json.Field} {name : String} (hkind : f.kind = .integer 0 65535 name)
    {v : Option Json.Scalar} (h : f.Fits v) :
    (portOf v).map (fun port => Json.Scalar.integer port.toNat) = v := by
  match v with
  | none => rfl
  | some (.text _) =>
    rw [Json.Field.Fits, hkind] at h
    cases h
  | some (.integer n) =>
    obtain ⟨low, high, name', hk, hlow, hhigh⟩ := h
    rw [hkind] at hk
    cases hk
    have hn : n.toNat < UInt16.size := by
      show n.toNat < 65536
      omega
    have hnat : (n.toNat : Int) = n := Int.toNat_of_nonneg hlow
    simp only [portOf, Option.map_some, UInt16.toNat_ofNat_of_lt' hn, hnat]

/-- The fields of a body make an update without loss. -/
theorem ConfigUpdate.values_ofFields (h : call.Carries ConfigUpdate.shape fields) :
    (ofFields fields).values = fields := by
  have hfits := Json.Shape.fits_of_parseFront (by decide) h.body
  match fields, hfits with
  | [host, port, topic], .cons hhost (.cons hport (.cons htopic .nil)) =>
    show [_, _, _] = [_, _, _]
    rw [ofFields, textOf_map rfl hhost, portOf_map rfl hport, textOf_map rfl htopic]

-- A field that is null counts as left out.
example : ConfigUpdate.shape.parseFront "\x7b\"topic\":null,\"port\":9100\x7d" =
    .ok [none, some (.integer 9100), none] := by cbv

/-- The field of a body with a name is a name. -/
theorem name_of_carries (h : call.Carries nameShape fields) :
    fields = [some (.text (nameOfFields fields))] := by
  have hfits := Json.Shape.fits_of_parseFront (by decide) h.body
  match fields, hfits with
  | [name], .cons hname .nil =>
    have htext := textOf_map rfl hname
    match name, hname, htext with
    | none, hname, _ => cases hname
    | some (.text _), _, _ => rfl
    | some (.integer _), _, htext => cases htext

/-! ## Updates -/

/-- An update that can be put in force: no blank host, and something is left of the topic. -/
structure ConfigUpdate.IsAcceptable (u : ConfigUpdate) : Prop where
  host : ∀ host, u.host = some host → Text.allBlank host = false
  topic : ∀ topic, u.topic = some topic → Topic.sanitise topic ≠ ""

/-- An update is refused exactly if it cannot be put in force. -/
theorem ConfigUpdate.refusal?_eq_none_iff (u : ConfigUpdate) :
    u.refusal? = none ↔ u.IsAcceptable := by
  obtain ⟨host, port, topic⟩ := u
  have hhost : (host.map Text.allBlank).getD false = false ↔
      ∀ t, host = some t → Text.allBlank t = false := by
    cases host <;> simp
  have htopic : (topic.map fun t => !Settings.acceptsTopic t).getD false = false ↔
      ∀ t, topic = some t → Topic.sanitise t ≠ "" := by
    cases topic <;> simp [Settings.acceptsTopic]
  unfold refusal?
  constructor
  · intro h
    split at h
    · cases h
    · next hh =>
      split at h
      · cases h
      · next ht => exact ⟨hhost.1 (by simpa using hh), htopic.1 (by simpa using ht)⟩
  · rintro ⟨hh, ht⟩
    rw [if_neg (by rw [hhost.2 hh]; decide), if_neg (by rw [htopic.2 ht]; decide)]

/-- The settings after an update: what it gives is in force, a topic sanitised, and what it leaves
out is as it was. -/
theorem ConfigUpdate.apply_eq {u : ConfigUpdate} (hu : u.IsAcceptable) (s : Settings) :
    u.apply s = ⟨u.host.getD s.host, u.port.getD s.port,
      (u.topic.map Topic.sanitise).getD s.topic⟩ := by
  obtain ⟨host, port, topic⟩ := u
  have htopic : ∀ s' : Settings, (topic.map s'.setTopic).getD s' =
      { s' with topic := (topic.map Topic.sanitise).getD s'.topic } := by
    intro s'
    cases topic with
    | none => rfl
    | some t =>
      have haccepts : Settings.acceptsTopic t = true := by
        rw [Settings.acceptsTopic, bne_iff_ne]
        exact hu.topic t rfl
      exact if_pos haccepts
  unfold apply
  dsimp only
  rw [htopic]
  cases host <;> cases port <;> rfl

/-! ## What a call asks for -/

/-- A call is to a route: its path is that of the route, with no slash in the user id. -/
def Call.IsTo (call : Call) (route : Route) : Prop :=
  pathOf call.uri = route.path.toList ∧ '/' ∉ route.user.toList

/-- What a call asks the relay to do. -/
inductive Asks (call : Call) : Operation → Prop
  /-- To show something. -/
  | look {route : Route} (ht : call.IsTo route)
      (hr : route = .health ∨ route = .config ∨ route = .status)
      (hm : call.method = "GET" ∨ call.method = "HEAD") : Asks call .keep
  /-- To change settings. -/
  | configure {update : ConfigUpdate} (ht : call.IsTo .config) (hm : call.method = "PUT")
      (hb : call.Carries ConfigUpdate.shape update.values) (hu : update.IsAcceptable) :
      Asks call (.configure update)
  /-- To name a user. -/
  | name {text : String} {user : UserId} {name : String} (ht : call.IsTo (.userName text))
      (hm : call.method = "PUT") (hid : decodeUser text = .ok user)
      (hb : call.Carries nameShape [some (.text name)]) : Asks call (.setName user name)
  /-- To hear a user. -/
  | speech {text : String} {user : UserId} (ht : call.IsTo (.userSpeech text))
      (hm : call.method = "POST") (hid : decodeUser text = .ok user) : Asks call (.speech user)
  /-- To take note that a recording is complete. -/
  | stopped (ht : call.IsTo .recordingStopped) (hm : call.method = "POST") : Asks call .notify

/-- A reply that tells of success. -/
def Reply.isSuccess (reply : Reply) : Bool := 200 ≤ reply.status && reply.status < 300

/-- A rejection is no success. -/
theorem Rejection.not_success (rejection : Rejection) : rejection.reply.isSuccess = false := by
  cases rejection with
  | body why =>
    unfold reply
    dsimp only
    split <;> rfl
  | _ => rfl

variable {route : Route} {reply : Reply} {operation : Operation} {answer : Relay → Reply}

/-- What is answered to an operation that has led to the relay `r`.  An update is answered with the
host, the port and the topic that are in force after it. -/
def Operation.IsAnswered (r : Relay) (reply : Reply) : Operation → Prop
  | .keep => reply.status = 200
  | .configure _ =>
    reply = .ofJson 200 (.config
      { host := r.station.settings.host
        port := r.station.settings.port
        topic := r.station.settings.topic })
  | .setName .. | .speech _ | .notify => reply = .bare 204

/-- Every operation is answered with success. -/
theorem Operation.IsAnswered.isSuccess {r : Relay} (h : operation.IsAnswered r reply) :
    reply.isSuccess = true := by
  cases operation with
  | keep =>
    have hstatus : reply.status = 200 := h
    simp [Reply.isSuccess, hstatus]
  | configure update =>
    obtain rfl : reply = _ := h
    rfl
  | _ =>
    obtain rfl : reply = _ := h
    rfl

/-! ## Decoding -/

/-- What is decoded is asked for and has an answer, and what is not decoded is no success. -/
def Sound (call : Call) : Except Reply (Operation × (Relay → Reply)) → Prop
  | .error reply => reply.isSuccess = false
  | .ok (operation, answer) => Asks call operation ∧ ∀ r, operation.IsAnswered r (answer r)

/-- Showing something is asked for with one of two methods. -/
theorem sound_look (ht : call.IsTo route)
    (hr : route = .health ∨ route = .config ∨ route = .status) {answer : Relay → Reply}
    (hanswer : ∀ r, (answer r).status = 200) :
    Sound call (if call.method == "GET" then .ok (.keep, answer)
      else if call.method == "HEAD" then .ok (.keep, fun r => { answer r with body := .empty })
      else .error ⟨405, none, some route.allow, .empty⟩) := by
  split
  · next hm => exact ⟨.look ht hr (Or.inl (beq_iff_eq.1 hm)), hanswer⟩
  · split
    · next hm => exact ⟨.look ht hr (Or.inr (beq_iff_eq.1 hm)), hanswer⟩
    · rfl

/-- Decoding a call is sound, route by route. Where a method is not one of its route, the call is
rejected, which is no success. -/
theorem sound_decode (ht : call.IsTo route) : Sound call (decode route call) := by
  unfold decode
  dsimp only
  cases route with
  | health => exact sound_look ht (Or.inl rfl) fun _ => rfl
  | status => exact sound_look ht (Or.inr (Or.inr rfl)) fun _ => rfl
  -- the one route that can be looked at and be put
  | config =>
    show Sound call (if call.method == "PUT" then _ else _)
    split
    · next hm =>
      split
      · next rejection _ => exact rejection.not_success
      · next fields hbody =>
        split
        · rfl
        · next hrefusal =>
          have hb := decodeBody_eq_ok_iff.1 hbody
          refine ⟨.configure ht (beq_iff_eq.1 hm) ?_ ((ConfigUpdate.refusal?_eq_none_iff _).1 hrefusal),
            fun _ => rfl⟩
          rwa [ConfigUpdate.values_ofFields hb]
    · exact sound_look ht (Or.inr (Or.inl rfl)) fun _ => rfl
  | userName text =>
    show Sound call (if call.method == "PUT" then _ else _)
    split
    · next hm =>
      split
      · next rejection _ => exact rejection.not_success
      · next user hid =>
        split
        · next rejection _ => exact rejection.not_success
        · next fields hbody =>
          have hb := decodeBody_eq_ok_iff.1 hbody
          refine ⟨.name ht (beq_iff_eq.1 hm) hid ?_, fun _ => rfl⟩
          rwa [← name_of_carries hb]
    · rfl
  | userSpeech text =>
    show Sound call (if call.method == "POST" then _ else _)
    split
    · next hm =>
      split
      · next rejection _ => exact rejection.not_success
      · next user hid => exact ⟨.speech ht (beq_iff_eq.1 hm) hid, fun _ => rfl⟩
    · rfl
  | recordingStopped =>
    show Sound call (if call.method == "POST" then _ else _)
    split
    · next hm => exact ⟨.stopped ht (beq_iff_eq.1 hm), fun _ => rfl⟩
    · rfl

/-- What is asked for is decoded. -/
theorem decode_of_asks (h : Asks call operation) : ∃ route, call.IsTo route ∧
    ∃ answer, decode route call = .ok (operation, answer) := by
  cases h with
  | @look route ht hr hm =>
    refine ⟨route, ht, ?_⟩
    rcases hr with rfl | rfl | rfl <;> rcases hm with hm | hm <;> simp [decode, hm]
  | @configure update ht hm hb hu =>
    refine ⟨.config, ht, ?_⟩
    have hbody := decodeBody_eq_ok_iff.2 hb
    have hrefusal := update.refusal?_eq_none_iff.2 hu
    simp [decode, hm, hbody, ConfigUpdate.ofFields_values, hrefusal]
  | @name text user name ht hm hid hb =>
    refine ⟨.userName text, ht, ?_⟩
    have hbody := decodeBody_eq_ok_iff.2 hb
    simp [decode, hm, hid, hbody, nameOfFields, textOf]
  | @speech text user ht hm hid =>
    refine ⟨.userSpeech text, ht, ?_⟩
    simp [decode, hm, hid]
  | stopped ht hm =>
    refine ⟨.recordingStopped, ht, ?_⟩
    simp [decode, hm]

/-! ## Serving -/

/-- A call asks for an operation that is then carried out and answered, or it asks for none, is
told so and changes nothing. -/
theorem serve_cases (r : Relay) (now : Instant) (call : Call) :
    (∃ operation, Asks call operation ∧ (serve r now call).1 = operation.apply r now ∧
      operation.IsAnswered (serve r now call).1 (serve r now call).2) ∨
    (∀ operation, ¬ Asks call operation) ∧ (serve r now call).1 = r ∧
      (serve r now call).2.isSuccess = false := by
  -- whatever is asked for is found and decoded; so a call that is not asks for nothing
  have hfind : ∀ {operation}, Asks call operation → ∃ route answer,
      Route.find? call.uri = some route ∧ decode route call = .ok (operation, answer) := by
    intro operation hasks
    obtain ⟨route, ht, answer, hdecode⟩ := decode_of_asks hasks
    exact ⟨route, answer, (Route.find?_eq_some_iff _ _).2 ht, hdecode⟩
  unfold serve
  cases hroute : Route.find? call.uri with
  | none =>
    refine Or.inr ⟨fun operation hasks => ?_, rfl, rfl⟩
    obtain ⟨route, answer, he, -⟩ := hfind hasks
    rw [hroute] at he
    cases he
  | some route =>
    have hsound := sound_decode ((Route.find?_eq_some_iff _ _).1 hroute)
    dsimp only
    cases hdecode : decode route call with
    | error reply =>
      rw [hdecode] at hsound
      refine Or.inr ⟨fun operation hasks => ?_, rfl, hsound⟩
      obtain ⟨route', answer, he, hd⟩ := hfind hasks
      rw [hroute] at he
      cases he
      rw [hdecode] at hd
      cases hd
    | ok decoded =>
      obtain ⟨operation, answer⟩ := decoded
      rw [hdecode] at hsound
      exact Or.inl ⟨operation, hsound.1, rfl, hsound.2 _⟩

/-- No call asks for two things. -/
theorem Asks.unique {operation' : Operation} (h : Asks call operation)
    (h' : Asks call operation') : operation = operation' := by
  -- each of the two is what the call is decoded to
  obtain ⟨route, ht, answer, hdecode⟩ := decode_of_asks h
  obtain ⟨route', ht', answer', hdecode'⟩ := decode_of_asks h'
  have hroute := (Route.find?_eq_some_iff _ _).2 ht
  rw [(Route.find?_eq_some_iff _ _).2 ht'] at hroute
  cases hroute
  rw [hdecode] at hdecode'
  cases hdecode'
  rfl

/-- What a call does to the relay, and what it is answered. -/
structure Served (r : Relay) (now : Instant) (call : Call) : Prop where
  /-- A call that is not told of success has changed nothing at all. -/
  rejected : (serve r now call).2.isSuccess = false → (serve r now call).1 = r
  /-- A call is told of success exactly if it asks for an operation. -/
  succeeds : (serve r now call).2.isSuccess = true ↔ ∃ operation, Asks call operation
  /-- There is no other operation that it asks for, and the answer is the one due. -/
  answered : ∀ operation, Asks call operation →
    (∀ operation', Asks call operation' → operation' = operation) ∧
      operation.IsAnswered (serve r now call).1 (serve r now call).2
  /-- Looking changes nothing. -/
  look : Asks call .keep → (serve r now call).1 = r
  /-- An update puts in force what it gives, a topic sanitised, and leaves all else as it was. -/
  configure : ∀ update, Asks call (.configure update) → (serve r now call).1 =
    { r with station := { r.station with settings :=
      { host := update.host.getD r.station.settings.host
        port := update.port.getD r.station.settings.port
        topic := (update.topic.map Topic.sanitise).getD r.station.settings.topic } } }
  /-- The host's calls are the operations of the relay. -/
  name : ∀ user name, Asks call (.setName user name) →
    (serve r now call).1 = r.setName user name
  speech : ∀ user, Asks call (.speech user) → (serve r now call).1 = r.reportFrame user true now
  stopped : Asks call .notify → (serve r now call).1 = r.notify
  /-- A call to get something changes nothing, whatever it is answered. -/
  get : call.method = "GET" → (serve r now call).1 = r

/-- Every call changes the relay as the one operation that it asks for, or not at all. -/
theorem served (r : Relay) (now : Instant) (call : Call) : Served r now call := by
  have hcases := serve_cases r now call
  have hdone : ∀ {operation}, Asks call operation →
      (serve r now call).1 = operation.apply r now ∧
        operation.IsAnswered (serve r now call).1 (serve r now call).2 := by
    intro operation hasks
    rcases hcases with ⟨operation', hasks', hdone⟩ | ⟨hnone, -⟩
    · exact hasks.unique hasks' ▸ hdone
    · exact absurd hasks (hnone operation)
  constructor
  · intro hfails
    rcases hcases with ⟨operation, hasks, -, hanswered⟩ | ⟨-, hkept, -⟩
    · rw [hanswered.isSuccess] at hfails
      cases hfails
    · exact hkept
  · constructor
    · intro hsucceeds
      rcases hcases with ⟨operation, hasks, -⟩ | ⟨-, -, hfails⟩
      · exact ⟨operation, hasks⟩
      · rw [hfails] at hsucceeds
        cases hsucceeds
    · rintro ⟨operation, hasks⟩
      exact (hdone hasks).2.isSuccess
  · intro operation hasks
    exact ⟨fun operation' hasks' => hasks'.unique hasks, (hdone hasks).2⟩
  · intro hasks
    exact (hdone hasks).1
  · intro update hasks
    rw [(hdone hasks).1, Operation.apply]
    cases hasks with
    | configure _ _ _ hu => rw [ConfigUpdate.apply_eq hu]
  · intro user name hasks
    exact (hdone hasks).1
  · intro user hasks
    exact (hdone hasks).1
  · intro hasks
    exact (hdone hasks).1
  · intro hget
    rcases hcases with ⟨operation, hasks, he, -⟩ | ⟨-, hkept, -⟩
    · -- of the operations only looking is asked for by this method
      cases hasks with
      | look => exact he
      | configure _ hm | name _ hm | speech _ hm | stopped _ hm =>
        rw [hget] at hm
        exact absurd hm (by decide)
    · exact hkept

end PushToTalk.Control
