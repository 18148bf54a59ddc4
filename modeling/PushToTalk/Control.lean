import PushToTalk.Control.MediaType
import PushToTalk.Relay
import PushToTalk.Text.Split
import PushToTalk.Url.Percent

/-
  The control API: the relay's settings and the host's callbacks over HTTP.

  A call is routed by its path, then by its method.  Its parts are decoded one after the other
  (the user id in the path, the type of the body, its size, its JSON) and the first that cannot
  be decoded decides the reply.  Only a call that is decoded as a whole changes anything, and
  then it is one operation of the relay.
-/

namespace PushToTalk.Control

/-! ## Calls and replies -/

/-- A request to the control API. -/
structure Call where
  /-- The name of the method. -/
  method : String
  /-- The address, with or without its scheme and host. -/
  uri : String
  /-- The media type of the body, if one is given. -/
  contentType : Option String
  body : String
  deriving Repr

/-- The settings as the API shows them. -/
structure ConfigView where
  host : String
  port : UInt16
  topic : String
  deriving DecidableEq, Repr

/-- The state of the relay as the API shows it. -/
structure Status where
  anyoneSpeaking : Bool
  pendingFetches : Nat
  cachedTicks : Nat
  folders : List Folder
  deriving Repr

/-- What a reply carries. -/
inductive Body
  | empty
  | text (s : String)
  | config (view : ConfigView)
  | status (status : Status)
  /-- Why a well-formed call was not carried out. -/
  | refusal (reason : String)
  deriving Repr

/-- A reply. -/
structure Reply where
  status : Nat
  /-- The media type of the body; none when the reply has no body by nature. -/
  contentType : Option String
  /-- The methods that the path knows, when it does not know the call's. -/
  allow : Option String
  body : Body
  deriving Repr

def plainText : String := "text/plain; charset=utf-8"

def json : String := "application/json"

/-- A reply with JSON in it. -/
def Reply.ofJson (status : Nat) (body : Body) : Reply := ⟨status, some json, none, body⟩

/-- A reply with plain text in it. -/
def Reply.ofText (status : Nat) (text : String) : Reply :=
  ⟨status, some plainText, none, .text text⟩

/-- A reply without a body. -/
def Reply.bare (status : Nat) : Reply := ⟨status, none, none, .empty⟩

/-! ## Routes -/

/-- The paths of the API. -/
inductive Route
  | health
  | config
  | status
  /-- A user's name; the user id is as it stands in the path. -/
  | userName (user : String)
  /-- A speech frame of a user. -/
  | userSpeech (user : String)
  | recordingStopped
  deriving DecidableEq, Repr

/-- A character of a scheme such as `http`. -/
def isSchemeChar (c : Char) : Bool := c.isAlphanum || c == '+' || c == '-' || c == '.'

/-- An address without its scheme and host, if it starts with them. -/
def withoutHost (uri : List Char) : List Char :=
  match uri.dropWhile isSchemeChar with
  | ':' :: '/' :: '/' :: rest => rest.dropWhile fun c => c != '/' && c != '?' && c != '#'
  | _ => uri

/-- The path of an address: what comes before its query and fragment. -/
def pathOf (uri : String) : List Char :=
  (withoutHost uri.toList).takeWhile fun c => c != '?' && c != '#'

/-- The route of an address. -/
def Route.find? (uri : String) : Option Route :=
  match (Text.split '/' (pathOf uri)).map String.ofList with
  | ["", "health"] => some .health
  | ["", "config"] => some .config
  | ["", "status"] => some .status
  | ["", "users", user, "name"] => some (.userName user)
  | ["", "users", user, "speech"] => some (.userSpeech user)
  | ["", "recording", "stopped"] => some .recordingStopped
  | _ => none

/-- The methods of a route, as a reply to any other method lists them. -/
def Route.allow : Route → String
  | .health | .status => "GET,HEAD"
  | .config => "GET,HEAD,PUT"
  | .userName _ => "PUT"
  | .userSpeech _ | .recordingStopped => "POST"

/-! ## Decoding -/

/-- Why a part of a call could not be decoded. -/
inductive Rejection
  /-- The user id is not text. -/
  | userNotText
  /-- The user id is not a number of 32 bits. -/
  | userNotNumber (text : String)
  /-- The body is not said to be JSON. -/
  | wrongContentType
  /-- The body is larger than the limit. -/
  | tooLarge
  /-- The body is not the JSON that was expected. -/
  | body (why : Json.Error)
  deriving Repr

/-- The steps that lead to a value inside a body, for a message. -/
def trailText : List String → String
  | [] => ""
  | steps => ".".intercalate steps ++ ": "

/-- The reply to a call that could not be decoded. -/
def Rejection.reply : Rejection → Reply
  | .userNotText => .ofText 400 "Invalid URL: Invalid UTF-8 in \x60user_id\x60"
  | .userNotNumber text =>
    .ofText 400 ("Invalid URL: Cannot parse \x60" ++ Text.quoted text ++ "\x60 to a \x60u32\x60")
  | .wrongContentType => .ofText 415 "Expected request with \x60Content-Type: application/json\x60"
  | .tooLarge => .ofText 413 "Failed to buffer the request body: length limit exceeded"
  | .body why =>
    let message := trailText why.trail ++ why.message
    if why.cause.isContent then
      .ofText 422 ("Failed to deserialize the JSON body into the target type: " ++ message)
    else .ofText 400 ("Failed to parse the request body as JSON: " ++ message)

/-- The largest body in bytes. -/
def bodyLimit : Nat := 2097152

/-- Decodes the user id in a path. -/
def decodeUser (text : String) : Except Rejection UserId :=
  match Url.decodeText? text.toList with
  | none => .error .userNotText
  | some text =>
    match Text.Numeral.bounded? UInt32.size text with
    | some n => .ok (UInt32.ofNat n)
    | none => .error (.userNotNumber text)

/-- Decodes a JSON body. -/
def decodeBody (shape : Json.Shape) (call : Call) :
    Except Rejection (List (Option Json.Scalar)) :=
  if !(call.contentType.map MediaType.isJson).getD false then .error .wrongContentType
  else if bodyLimit < call.body.utf8ByteSize then .error .tooLarge
  else match shape.parseFront call.body with
    | .ok fields => .ok fields
    | .error why => .error (.body why)

/-- The settings that a call asks for; what is left out stays as it is. -/
structure ConfigUpdate where
  host : Option String
  port : Option UInt16
  topic : Option String
  deriving DecidableEq, Repr

/-- The fields of a change of settings. -/
def ConfigUpdate.shape : Json.Shape :=
  ⟨"UpdateConfigRequest",
    [⟨"host", .text, true⟩, ⟨"port", .integer 0 65535 "u16", true⟩, ⟨"topic", .text, true⟩]⟩

/-- The text in a field. -/
def textOf : Option Json.Scalar → Option String
  | some (.text s) => some s
  | _ => none

/-- The port in a field. -/
def portOf : Option Json.Scalar → Option UInt16
  | some (.integer n) => some (UInt16.ofNat n.toNat)
  | _ => none

/-- The update that decoded fields make. -/
def ConfigUpdate.ofFields : List (Option Json.Scalar) → ConfigUpdate
  | [host, port, topic] => ⟨textOf host, portOf port, textOf topic⟩
  | _ => ⟨none, none, none⟩

/-- The field of a user's name. -/
def nameShape : Json.Shape := ⟨"SetUserNameRequest", [⟨"name", .text, false⟩]⟩

/-- The name that decoded fields give. -/
def nameOfFields : List (Option Json.Scalar) → String
  | [name] => (textOf name).getD ""
  | _ => ""

/-! ## Operations -/

/-- What a call does to the relay. -/
inductive Operation
  | keep
  | configure (update : ConfigUpdate)
  | setName (user : UserId) (name : String)
  | speech (user : UserId)
  | notify
  deriving DecidableEq, Repr

/-- Why an update is refused, if it is. -/
def ConfigUpdate.refusal? (u : ConfigUpdate) : Option String :=
  if (u.host.map Text.allBlank).getD false then some "host must not be empty"
  else if (u.topic.map fun t => !Settings.acceptsTopic t).getD false then
    some "topic must contain letters or digits"
  else none

/-- The settings after an update. -/
def ConfigUpdate.apply (u : ConfigUpdate) (s : Settings) : Settings :=
  let s := (u.host.map s.setHost).getD s
  let s := (u.port.map s.setPort).getD s
  (u.topic.map s.setTopic).getD s

/-- The relay after an operation at `now`. -/
def Operation.apply (r : Relay) (now : Instant) : Operation → Relay
  | .keep => r
  | .configure u => { r with station := { r.station with settings := u.apply r.station.settings } }
  | .setName user name => r.setName user name
  | .speech user => r.reportFrame user true now
  | .notify => r.notify

/-- The settings as the API shows them. -/
def viewOf (s : Settings) : ConfigView := ⟨s.host, s.port, s.topic⟩

/-- The state as the API shows it. -/
def statusOf (r : Relay) : Status :=
  ⟨r.anyoneSpeaking, r.pending.size, r.station.cache.size, r.station.folders.folders⟩

/-- Decodes a call on a route into an operation and the reply to it, which may look at the relay
after the operation. -/
def decode (route : Route) (call : Call) : Except Reply (Operation × (Relay → Reply)) :=
  let reading (reply : Relay → Reply) : Except Reply (Operation × (Relay → Reply)) :=
    if call.method == "GET" then .ok (.keep, reply)
    else if call.method == "HEAD" then .ok (.keep, fun r => { reply r with body := .empty })
    else .error ⟨405, none, some route.allow, .empty⟩
  let refused : Except Reply (Operation × (Relay → Reply)) :=
    .error ⟨405, none, some route.allow, .empty⟩
  match route with
  | .health => reading fun _ => .ofText 200 "OK"
  | .status => reading fun r => .ofJson 200 (.status (statusOf r))
  | .config =>
    if call.method == "PUT" then
      match decodeBody ConfigUpdate.shape call with
      | .error rejection => .error rejection.reply
      | .ok fields =>
        let update := ConfigUpdate.ofFields fields
        match update.refusal? with
        | some reason => .error (.ofJson 400 (.refusal reason))
        | none =>
          .ok (.configure update, fun r => .ofJson 200 (.config (viewOf r.station.settings)))
    else reading fun r => .ofJson 200 (.config (viewOf r.station.settings))
  | .userName user =>
    if call.method == "PUT" then
      match decodeUser user with
      | .error rejection => .error rejection.reply
      | .ok user =>
        match decodeBody nameShape call with
        | .error rejection => .error rejection.reply
        | .ok fields => .ok (.setName user (nameOfFields fields), fun _ => .bare 204)
    else refused
  | .userSpeech user =>
    if call.method == "POST" then
      match decodeUser user with
      | .error rejection => .error rejection.reply
      | .ok user => .ok (.speech user, fun _ => .bare 204)
    else refused
  | .recordingStopped =>
    if call.method == "POST" then .ok (.notify, fun _ => .bare 204) else refused

/-- Answers a call that comes at `now`. -/
def serve (r : Relay) (now : Instant) (call : Call) : Relay × Reply :=
  match Route.find? call.uri with
  | none => (r, .bare 404)
  | some route =>
    match decode route call with
    | .error reply => (r, reply)
    | .ok (operation, reply) =>
      let r := operation.apply r now
      (r, reply r)

/-! ## Texts -/

/-- The settings as JSON. -/
def ConfigView.json (v : ConfigView) : String :=
  Json.writeObject
    [("host", .text v.host), ("port", .integer v.port.toNat), ("topic", .text v.topic)]

end PushToTalk.Control
