import PushToTalk.Config.Field
import PushToTalk.Relay

/-
  The configuration of the relay.

  Every field has a standard value, and a configuration replaces those that it gives.  Groups and
  fields are looked up by their names; names that are not known do not matter.
-/

namespace PushToTalk

namespace Config

/-- Where the control interface is served. -/
structure Listener where
  bind : String
  port : UInt16
  deriving DecidableEq, Repr

structure Service where
  name : String
  listener : Listener
  deriving DecidableEq, Repr

/-- Where the backend is. -/
structure Backend where
  host : String
  port : UInt16
  /-- Seconds until an exchange is given up. -/
  timeout : Nat
  deriving DecidableEq, Repr

structure Chat where
  topic : String
  deriving DecidableEq, Repr

structure Recording where
  /-- The directory of the session folders. -/
  root : String
  /-- Milliseconds between two looks at who is speaking. -/
  pollInterval : Nat
  /-- A user without speech for this many milliseconds is silent. -/
  speakingTimeout : Nat
  /-- Whether the end of a recording counts as its completion. -/
  notifyOnStop : Bool
  deriving DecidableEq, Repr

structure Limits where
  uploads : Nat
  fetches : Nat
  deriving DecidableEq, Repr

end Config

/-- A configuration. -/
structure Config where
  service : Config.Service
  backend : Config.Backend
  chat : Config.Chat
  recording : Config.Recording
  limits : Config.Limits
  deriving DecidableEq, Repr

namespace Config

/-! ## Standard values -/

def Listener.standard : Listener := ⟨"127.0.0.1", 8090⟩

def Service.standard : Service := ⟨"voice-relay", .standard⟩

def Backend.standard : Backend := ⟨"localhost", 8080, 8⟩

def Chat.standard : Chat := ⟨Topic.standard⟩

def Recording.standard : Recording := ⟨".", 100, 100, false⟩

def Limits.standard : Limits := ⟨4, 16⟩

/-- The configuration without a file. -/
def standard : Config := ⟨.standard, .standard, .standard, .standard, .standard⟩

/-! ## Reading -/

def Listener.ofValue (v : Value) : Except Problem Listener := do
  v.checkGroup "HttpConfig"
  let bind ← v.field 0 "bind" readText Listener.standard.bind
  let port ← v.field 1 "port" readPort Listener.standard.port
  return { bind, port }

def Service.ofValue (v : Value) : Except Problem Service := do
  v.checkGroup "ServiceConfig"
  let name ← v.field 0 "name" readText Service.standard.name
  let listener ← v.field 1 "http" Listener.ofValue .standard
  return { name, listener }

def Backend.ofValue (v : Value) : Except Problem Backend := do
  v.checkGroup "BackendConfig"
  let host ← v.field 0 "host" readText Backend.standard.host
  let port ← v.field 1 "port" readPort Backend.standard.port
  let timeout ← v.field 2 "request_timeout_secs" readNumber Backend.standard.timeout
  return { host, port, timeout }

def Chat.ofValue (v : Value) : Except Problem Chat := do
  v.checkGroup "ChatConfig"
  let topic ← v.field 0 "topic" readText Chat.standard.topic
  return { topic }

def Recording.ofValue (v : Value) : Except Problem Recording := do
  v.checkGroup "RecordingConfig"
  let root ← v.field 0 "root_dir" readText Recording.standard.root
  let pollInterval ← v.field 1 "poll_interval_ms" readNumber Recording.standard.pollInterval
  let speakingTimeout ←
    v.field 2 "speaking_timeout_ms" readNumber Recording.standard.speakingTimeout
  let notifyOnStop ← v.field 3 "notify_on_stop" readTruth Recording.standard.notifyOnStop
  return { root, pollInterval, speakingTimeout, notifyOnStop }

def Limits.ofValue (v : Value) : Except Problem Limits := do
  v.checkGroup "LimitsConfig"
  let uploads ← v.field 0 "max_concurrent_uploads" readNumber Limits.standard.uploads
  let fetches ← v.field 1 "max_concurrent_tick_fetches" readNumber Limits.standard.fetches
  return { uploads, fetches }

/-- The configuration that a value gives. -/
def ofValue (v : Value) : Except Problem Config := do
  v.checkGroup "Config"
  let service ← v.field 0 "service" Service.ofValue .standard
  let backend ← v.field 1 "backend" Backend.ofValue .standard
  let chat ← v.field 2 "chat" Chat.ofValue .standard
  let recording ← v.field 3 "recording" Recording.ofValue .standard
  let limits ← v.field 4 "limits" Limits.ofValue .standard
  return { service, backend, chat, recording, limits }

/-! ## What a configuration sets up -/

/-- The settings at the start. -/
def settings (c : Config) : Settings := .start c.backend.host c.backend.port c.chat.topic

/-- How the relay is set up. -/
def options (c : Config) : Options where
  root := .ofText c.recording.root
  pollInterval := c.recording.pollInterval
  speakingTimeout := c.recording.speakingTimeout
  maxFetches := c.limits.fetches
  maxUploads := c.limits.uploads

/-- The recorder that a configuration asks for. -/
def recorder (c : Config) : Recorder := .folderOnly c.recording.notifyOnStop

/-- The place where the control interface is served. -/
def bindText (c : Config) : String :=
  c.service.listener.bind ++ ":" ++ Text.Numeral.ofNat c.service.listener.port.toNat

end Config

end PushToTalk
