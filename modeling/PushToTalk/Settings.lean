import PushToTalk.Text.Numeral
import PushToTalk.Topic

/-
  The settings that can change while the relay runs: where the backend is, and the chat topic.

  Host and port are taken as they come.  A topic is sanitised first, and one with nothing left is
  refused, so that the topic in force is never empty.
-/

namespace PushToTalk

/-- Backend address and chat topic. -/
structure Settings where
  host : String
  port : UInt16
  topic : String
  deriving DecidableEq, Repr

namespace Settings

/-- The topic in force when `text` is asked for at the start. -/
def startTopic (text : String) : String :=
  if Topic.sanitise text == "" then Topic.standard else Topic.sanitise text

/-- Settings at the start. -/
def start (host : String) (port : UInt16) (topic : String) : Settings :=
  ⟨host, port, startTopic topic⟩

/-- Settings when nothing is configured. -/
def standard : Settings := start "localhost" 8080 Topic.standard

def setHost (s : Settings) (host : String) : Settings := { s with host }

def setPort (s : Settings) (port : UInt16) : Settings := { s with port }

/-- Whether a topic can be put in force. -/
def acceptsTopic (text : String) : Bool := Topic.sanitise text != ""

/-- Puts a topic in force, or keeps the present one if nothing of `text` is usable. -/
def setTopic (s : Settings) (text : String) : Settings :=
  if acceptsTopic text then { s with topic := Topic.sanitise text } else s

end Settings

/-! ## What a change of settings says -/

/-- A line for the log. -/
inductive Settings.Notice
  /-- The topic asked for at the start had nothing usable. -/
  | startTopicRefused (text : String)
  | hostSet (host : String)
  | portSet (port : UInt16)
  | topicSet (before after : String)
  | topicRefused (text : String) (kept : String)
  deriving DecidableEq, Repr

/-- The wording of a notice. -/
def Settings.Notice.message : Settings.Notice → String
  | .startTopicRefused text =>
    "Chat topic \"" ++ text ++ "\" has no usable characters, using " ++ Topic.standard
  | .hostSet host => "Setting backend host to " ++ host
  | .portSet port => "Setting backend port to " ++ Text.Numeral.ofNat port.toNat
  | .topicSet before after =>
    "Chat topic updated from \"" ++ before ++ "\" to \"" ++ after ++ "\""
  | .topicRefused text kept =>
    "Chat topic \"" ++ text ++ "\" has no usable characters, keeping \"" ++ kept ++ "\""

/-- What setting a topic says. -/
def Settings.topicNotice (s : Settings) (text : String) : Settings.Notice :=
  if acceptsTopic text then .topicSet s.topic (Topic.sanitise text)
  else .topicRefused text s.topic

end PushToTalk
