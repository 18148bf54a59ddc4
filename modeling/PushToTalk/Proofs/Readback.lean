import Mathlib
import PushToTalk.Proofs.Json.RoundTrip
import PushToTalk.Proofs.Topic

/-
  The configuration that the control API shows can be put back.

  A host that wants to change one setting may get the configuration, change it and put it back; one
  that was not sure whether its call went through may send it again.  Both are safe only if putting
  back what is in force changes nothing, and if a second call of the same kind does no more than the
  first.  What a call gets is an object with all three settings.  Put back, it asks for the settings
  that are in force already: host and port as they are, and a topic that is sanitised, so that
  sanitising it again leaves it as it is.  The guard of an update is what may stand in the way: a
  body can be too large for the API, and a host can be blank.

  1. **Updates** — one that is in force already changes nothing, and each is in force once it was
     carried out (`apply_of_inForce`, `inForce_apply`).

  2. **Bodies** — what shows the settings is read as the update that gives them all
     (`parseFront_json`), and it is longer than the host in it (`length_host_lt_json`).

  3. **Calls** — one that puts something asks for an update or for nothing (`Call.Puts.configure`),
     whether it comes once or twice (`Call.Puts.serve_serve`).

  4. **Samples** — a relay whose configuration is taken back, and two whose configuration is not:
     `shown_config_refused`.

  That the topic in force is sanitised holds of every state that is reached, though not of every
  state that can be written down; this is why the relay in the main statement is one that was
  reached.

  Main statement: `config_read_back`.
-/

namespace PushToTalk

namespace Control

variable {call : Call} {operation : Operation} {s : Settings} {u : ConfigUpdate}

/-! ## Updates -/

/-- The settings are as an update would make them. -/
structure ConfigUpdate.InForce (u : ConfigUpdate) (s : Settings) : Prop where
  host : ∀ host, u.host = some host → host = s.host
  port : ∀ port, u.port = some port → port = s.port
  topic : ∀ topic, u.topic = some topic → Topic.sanitise topic = s.topic

/-- An update that is in force already changes nothing. -/
theorem ConfigUpdate.apply_of_inForce (hu : u.IsAcceptable) (h : u.InForce s) : u.apply s = s := by
  have hhost : u.host.getD s.host = s.host := by
    cases he : u.host with
    | none => rfl
    | some host => exact h.host host he
  have hport : u.port.getD s.port = s.port := by
    cases he : u.port with
    | none => rfl
    | some port => exact h.port port he
  have htopic : (u.topic.map Topic.sanitise).getD s.topic = s.topic := by
    cases he : u.topic with
    | none => rfl
    | some topic => exact h.topic topic he
  rw [apply_eq hu, hhost, hport, htopic]

/-- What was put in force is in force. -/
theorem ConfigUpdate.inForce_apply (hu : u.IsAcceptable) (s : Settings) :
    u.InForce (u.apply s) := by
  rw [apply_eq hu]
  constructor
  · intro host he
    rw [he]
    rfl
  · intro port he
    rw [he]
    rfl
  · intro topic he
    rw [he]
    rfl

/-- The update that gives all settings. -/
def ConfigUpdate.ofSettings (s : Settings) : ConfigUpdate :=
  ⟨some s.host, some s.port, some s.topic⟩

/-- Settings with a safe topic are as the update with all of them would make them. -/
theorem ConfigUpdate.inForce_ofSettings (h : Topic.IsSafe s.topic) : (ofSettings s).InForce s := by
  constructor
  · intro host he
    exact (Option.some.inj he).symm
  · intro port he
    exact (Option.some.inj he).symm
  · intro topic he
    obtain rfl := Option.some.inj he
    exact h.fixed

/-- Settings with a safe topic can be put in force, if their host is not blank. -/
theorem ConfigUpdate.isAcceptable_ofSettings (hhost : Text.allBlank s.host = false)
    (h : Topic.IsSafe s.topic) : (ofSettings s).IsAcceptable := by
  constructor
  · intro host he
    obtain rfl := Option.some.inj he
    exact hhost
  · intro topic he
    obtain rfl := Option.some.inj he
    rw [h.fixed]
    exact h.nonempty

/-! ## Bodies -/

/-- The body that shows the settings is read as all of them. -/
theorem parseFront_json (s : Settings) :
    ConfigUpdate.shape.parseFront (viewOf s).json = .ok (ConfigUpdate.ofSettings s).values := by
  have hport : s.port.toNat < 65536 := s.port.toNat_lt
  have hfits : List.Forall₂ Json.Field.Fits ConfigUpdate.shape.fields
      (ConfigUpdate.ofSettings s).values := by
    refine .cons rfl (.cons ⟨0, 65535, "u16", rfl, ?_⟩ (.cons rfl .nil))
    omega
  have hword : ∀ n, some (.integer n) ∈ (ConfigUpdate.ofSettings s).values → Json.IsWord n := by
    intro n hn
    have hn : n = s.port.toNat := by
      simpa [ConfigUpdate.values, ConfigUpdate.ofSettings] using hn
    rw [hn]
    constructor <;> omega
  -- what is shown is written as a record of the shape that an update is read by
  have hwritten : (viewOf s).json =
      ConfigUpdate.shape.write (ConfigUpdate.ofSettings s).values := rfl
  rw [hwritten]
  exact Json.Shape.parseFront_write (by decide) hfits hword

/-- The body is longer than the host in it. -/
theorem length_host_lt_json (s : Settings) : s.host.length < (viewOf s).json.utf8ByteSize := by
  have hescaped : ∀ cs : List Char, cs.length ≤ (cs.flatMap Json.escapeChar).length := by
    intro cs
    induction cs with
    | nil => exact Nat.le_refl 0
    | cons c cs ih =>
      have hc : 0 < (Json.escapeChar c).length := by
        unfold Json.escapeChar
        split_ifs <;> exact Nat.succ_pos _
      rw [List.flatMap_cons, List.length_append, List.length_cons]
      omega
  have hbytes : ∀ cs : List Char, cs.length ≤ String.utf8Len cs := by
    intro cs
    induction cs with
    | nil => exact Nat.le_refl 0
    | cons c cs ih =>
      have hc := c.utf8Size_pos
      rw [List.length_cons, String.utf8Len_cons]
      omega
  have hhost := hescaped s.host.toList
  rw [ConfigView.json, Json.writeObject, String.utf8ByteSize_ofList]
  -- escaping makes a text no shorter, and neither does encoding it
  refine Nat.lt_of_lt_of_le ?_ (hbytes _)
  rw [String.length_toList] at hhost
  simp only [Json.writeFields, Json.Written.chars, Json.writeText, viewOf, List.length_cons,
    List.length_append]
  omega

/-- Whoever carries the body that shows the settings gives all settings. -/
theorem update_of_carries (hbody : call.body = (viewOf s).json)
    (h : call.Carries ConfigUpdate.shape u.values) : u = .ofSettings s := by
  have hread := h.body
  rw [hbody, parseFront_json] at hread
  rw [← u.ofFields_values, ← Except.ok.inj hread, ConfigUpdate.ofFields_values]

/-! ## Calls -/

/-- A call to put a configuration in force. -/
structure Call.Puts (call : Call) : Prop where
  route : call.IsTo .config
  method : call.method = "PUT"

/-- The body of a call is said to be JSON. -/
def Call.IsJson (call : Call) : Prop :=
  ∃ type, call.contentType = some type ∧ MediaType.isJson type = true

/-- A call to put a configuration in force asks for an update or for nothing. -/
theorem Call.Puts.configure (h : call.Puts) (hasks : Asks call operation) :
    ∃ u, operation = .configure u ∧ call.Carries ConfigUpdate.shape u.values ∧ u.IsAcceptable := by
  cases hasks with
  | look _ _ hm =>
    rw [h.method] at hm
    exact absurd hm (by decide)
  | @configure u _ _ hb hu => exact ⟨u, rfl, hb, hu⟩
  | name ht =>
    have hroute := (Route.find?_eq_some_iff _ _).2 ht
    rw [(Route.find?_eq_some_iff _ _).2 h.route] at hroute
    cases hroute
  | speech _ hm =>
    rw [h.method] at hm
    exact absurd hm (by decide)
  | stopped _ hm =>
    rw [h.method] at hm
    exact absurd hm (by decide)

/-- An operation that such a call asks for does nothing the second time. -/
theorem Call.Puts.apply_apply (h : call.Puts) (hasks : Asks call operation) (r : Relay)
    (now later : Instant) :
    operation.apply (operation.apply r now) later = operation.apply r now := by
  obtain ⟨u, rfl, -, hu⟩ := h.configure hasks
  simp only [Operation.apply, ConfigUpdate.apply_of_inForce hu (ConfigUpdate.inForce_apply hu _)]

/-- Sent a second time, the call is answered as before and changes nothing more. -/
theorem Call.Puts.serve_serve (h : call.Puts) (r : Relay) (now later : Instant) :
    serve (serve r now call).1 later call = serve r now call := by
  have hroute := (Route.find?_eq_some_iff _ _).2 h.route
  have hsound := sound_decode h.route
  unfold serve
  rw [hroute]
  dsimp only
  cases hdecode : decode .config call with
  | error reply => rfl
  | ok decoded =>
    rw [hdecode] at hsound
    dsimp only
    rw [h.apply_apply hsound.1]

/-- A call to get the configuration is answered with it. -/
theorem serve_get (r : Relay) (now : Instant) (ht : call.IsTo .config)
    (hm : call.method = "GET") :
    serve r now call = (r, .ofJson 200 (.config (viewOf r.station.settings))) := by
  have hroute := (Route.find?_eq_some_iff _ _).2 ht
  simp [serve, hroute, decode, hm, Operation.apply]

/-- A body that is too large is not even read. -/
theorem Call.Puts.serve_of_large (h : call.Puts) (htype : call.IsJson)
    (hlarge : bodyLimit < call.body.utf8ByteSize) (r : Relay) (now : Instant) :
    serve r now call = (r, Rejection.tooLarge.reply) := by
  obtain ⟨type, ht, hjson⟩ := htype
  have hroute := (Route.find?_eq_some_iff _ _).2 h.route
  have hbody : decodeBody ConfigUpdate.shape call = .error .tooLarge := by
    unfold decodeBody
    rw [if_neg (by simp [ht, hjson]), if_pos hlarge]
  simp [serve, hroute, decode, h.method, hbody]

/-- An update that is refused is told why. -/
theorem Call.Puts.serve_of_refused {reason : String} (h : call.Puts)
    (hb : call.Carries ConfigUpdate.shape u.values) (hrefused : u.refusal? = some reason)
    (r : Relay) (now : Instant) : serve r now call = (r, .ofJson 400 (.refusal reason)) := by
  have hroute := (Route.find?_eq_some_iff _ _).2 h.route
  have hbody := decodeBody_eq_ok_iff.2 hb
  simp [serve, hroute, decode, h.method, hbody, ConfigUpdate.ofFields_values, hrefused]

/-- The settings that are in force stay in force when they are put back, with whatever success. -/
theorem Call.Puts.serve_json (h : call.Puts) {r : Relay} (now : Instant)
    (hbody : call.body = (viewOf r.station.settings).json)
    (hsafe : Topic.IsSafe r.station.settings.topic) : (serve r now call).1 = r := by
  rcases serve_cases r now call with ⟨operation, hasks, he, -⟩ | ⟨-, he, -⟩
  · obtain ⟨u, rfl, hb, hu⟩ := h.configure hasks
    obtain rfl := update_of_carries hbody hb
    have hsame := ConfigUpdate.apply_of_inForce hu (ConfigUpdate.inForce_ofSettings hsafe)
    rw [he, Operation.apply, hsame]
  · exact he

end Control

namespace Relay

open Control

variable {r : Relay}

/-- In every state that the relay can get into, a call to get the configuration is answered with the
settings in force, and changes nothing.  Putting this answer back changes nothing either; unless the
host is blank it is answered in the same way, if the body is not too large for the API, and is told
so otherwise.  Whatever is put in force, putting it in force again is answered as the first time and
changes nothing more. -/
theorem config_read_back (hr : Reached r) :
    let view := viewOf r.station.settings
    (∀ now get, get.IsTo .config → get.method = "GET" →
      serve r now get = (r, .ofJson 200 (.config view))) ∧
    (∀ now put, put.Puts → put.IsJson → put.body = view.json →
      (serve r now put).1 = r ∧
      (put.body.utf8ByteSize ≤ bodyLimit → Text.allBlank view.host = false →
        (serve r now put).2 = .ofJson 200 (.config view)) ∧
      (bodyLimit < put.body.utf8ByteSize → (serve r now put).2 = Rejection.tooLarge.reply)) ∧
    ∀ now later put, put.Puts → serve (serve r now put).1 later put = serve r now put := by
  intro view
  have hsafe := hr.topical.inForce
  refine ⟨fun now get => serve_get r now, fun now put hput htype hbody => ?_,
    fun now later put hput => hput.serve_serve r now later⟩
  have hkept := hput.serve_json now hbody hsafe
  refine ⟨hkept, fun hsize hhost => ?_, fun hlarge => ?_⟩
  · have hcarries : put.Carries ConfigUpdate.shape (ConfigUpdate.ofSettings _).values :=
      ⟨htype, hsize, hbody ▸ parseFront_json r.station.settings⟩
    have hasks := Control.Asks.configure hput.route hput.method hcarries
      (ConfigUpdate.isAcceptable_ofSettings hhost hsafe)
    have hreply := ((served r now put).answered _ hasks).2
    rw [Operation.IsAnswered, hkept] at hreply
    exact hreply
  · rw [hput.serve_of_large htype hlarge]

/-! ## Samples -/

/-- A relay that starts with a configuration for a backend at `host`. -/
def startedFor (host : String) : Relay :=
  let c := { Config.standard with backend := ⟨host, 8080, 8⟩ }
  startOn .blank c.options (CommandLine.Arguments.none.settings c) c.recorder

/-- A relay that has just started is in a state that it can get into. -/
theorem reached_startedFor (host : String) : Reached (startedFor host) := .configured _ _ _ _ _

/-- A relay that starts for a host has that host in its settings, with the usual port and topic. -/
theorem settings_startedFor (host : String) :
    (startedFor host).station.settings = ⟨host, 8080, "RADIO"⟩ := by
  have htopic : Settings.startTopic "RADIO" = "RADIO" := by decide
  exact congrArg (Settings.mk host 8080) htopic

/-- The call that puts back what a relay shows. -/
def putBack (r : Relay) : Call :=
  ⟨"PUT", "/config", some "application/json", (viewOf r.station.settings).json⟩

/-- A call to `/config` is to the configuration. -/
theorem isTo_config {method body : String} {type : Option String} :
    Call.IsTo ⟨method, "/config", type, body⟩ .config := by
  have hpath : pathOf "/config" = "/config".toList := by decide
  exact ⟨hpath, by decide⟩

/-- Putting back is a call to put a configuration in force. -/
theorem puts_putBack (r : Relay) : (putBack r).Puts := ⟨isTo_config, rfl⟩

/-- The body of a call that puts back is said to be JSON. -/
theorem isJson_putBack (r : Relay) : (putBack r).IsJson := ⟨_, rfl, by decide⟩

/-- The body of a call that puts back shows the settings of the relay. -/
theorem body_putBack (host : String) :
    (putBack (startedFor host)).body = ConfigView.json ⟨host, 8080, "RADIO"⟩ := by
  rw [putBack, settings_startedFor, viewOf]

/-- A relay shows its configuration, and takes it back. -/
theorem config_read_back_sample :
    let r := startedFor "localhost"
    let reply := Reply.ofJson 200 (.config ⟨"localhost", 8080, "RADIO"⟩)
    Reached r ∧ serve r 0 ⟨"GET", "/config", none, ""⟩ = (r, reply) ∧
      serve r 0 (putBack r) = (r, reply) := by
  intro r reply
  have hr : Reached r := reached_startedFor _
  have hview : viewOf r.station.settings = ⟨"localhost", 8080, "RADIO"⟩ :=
    congrArg viewOf (settings_startedFor _)
  have hsize : (putBack r).body.utf8ByteSize ≤ bodyLimit := by
    have hjson : ConfigView.json ⟨"localhost", 8080, "RADIO"⟩ =
        "\x7b\"host\":\"localhost\",\"port\":8080,\"topic\":\"RADIO\"\x7d" := by cbv
    rw [body_putBack, hjson]
    decide
  have hhost : Text.allBlank (viewOf r.station.settings).host = false := by
    rw [hview]
    decide
  obtain ⟨hget, hput, -⟩ := config_read_back hr
  obtain ⟨hkept, hanswered, -⟩ := hput 0 _ (puts_putBack r) (isJson_putBack r) rfl
  have hreply := hanswered hsize hhost
  have hshown := hget 0 ⟨"GET", "/config", none, ""⟩ isTo_config rfl
  rw [hview] at hreply hshown
  exact ⟨hr, hshown, Prod.ext hkept hreply⟩

/-- A host of as many characters as a body may have bytes. -/
def longHost : String := String.ofList (List.replicate bodyLimit 'a')

/-- What is shown is not always taken back: a host can be so long that the body with all settings is
too large, and a relay can start with no host, which an update refuses. -/
theorem shown_config_refused :
    Reached (startedFor longHost) ∧
      (serve (startedFor longHost) 0 (putBack (startedFor longHost))).2.status = 413 ∧
      Reached (startedFor "") ∧
      (serve (startedFor "") 0 (putBack (startedFor ""))).2.status = 400 := by
  refine ⟨reached_startedFor _, ?_, reached_startedFor _, ?_⟩
  · have hlength : longHost.length = bodyLimit := by
      rw [longHost, String.length_ofList, List.length_replicate]
    have hlarge : bodyLimit < (putBack (startedFor longHost)).body.utf8ByteSize := by
      have hlong := length_host_lt_json ⟨longHost, 8080, "RADIO"⟩
      rwa [hlength] at hlong
    rw [(puts_putBack _).serve_of_large (isJson_putBack _) hlarge]
    rfl
  · have hcarries : (putBack (startedFor "")).Carries ConfigUpdate.shape
        (ConfigUpdate.ofSettings ⟨"", 8080, "RADIO"⟩).values := by
      have hjson : ConfigView.json ⟨"", 8080, "RADIO"⟩ =
          "\x7b\"host\":\"\",\"port\":8080,\"topic\":\"RADIO\"\x7d" := by cbv
      refine ⟨isJson_putBack _, ?_, ?_⟩
      · rw [body_putBack, hjson]
        decide
      · rw [body_putBack]
        exact parseFront_json ⟨"", 8080, "RADIO"⟩
    have hrefused : (ConfigUpdate.ofSettings ⟨"", 8080, "RADIO"⟩).refusal? =
        some "host must not be empty" := by decide
    rw [(puts_putBack _).serve_of_refused hcarries hrefused]
    rfl

end Relay

end PushToTalk
