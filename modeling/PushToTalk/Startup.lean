import PushToTalk.CommandLine
import PushToTalk.Config.Load
import PushToTalk.Url.Ipv4
import PushToTalk.Url.Ipv6

/-
  From the command line to a relay that listens.

  The configuration is loaded, the options of the command line are laid over it, and the control
  interface is opened.  What happens on the way is told in messages.

  Main statements: `settings_host` and `settings_port`, an option of the command line goes before
  the field of the configuration, and each of them for itself.
-/

namespace PushToTalk

/-! ## Settings at the start -/

/-- The settings of a configuration with the options of a command line laid over it. -/
def CommandLine.Arguments.settings (a : CommandLine.Arguments) (c : Config) : Settings :=
  let s := (a.host.map c.settings.setHost).getD c.settings
  let s := (a.port.map s.setPort).getD s
  (a.topic.map s.setTopic).getD s

/-- The host of the command line goes before that of the configuration. -/
theorem CommandLine.Arguments.settings_host (a : CommandLine.Arguments) (c : Config) :
    (a.settings c).host = a.host.getD c.backend.host := by
  unfold CommandLine.Arguments.settings
  cases a.host <;> cases a.port <;> cases a.topic <;>
    simp [Settings.setHost, Settings.setPort, Settings.setTopic, Config.settings, Settings.start,
      apply_ite Settings.host]

/-- The port of the command line goes before that of the configuration. -/
theorem CommandLine.Arguments.settings_port (a : CommandLine.Arguments) (c : Config) :
    (a.settings c).port = a.port.getD c.backend.port := by
  unfold CommandLine.Arguments.settings
  cases a.host <;> cases a.port <;> cases a.topic <;>
    simp [Settings.setHost, Settings.setPort, Settings.setTopic, Config.settings, Settings.start,
      apply_ite Settings.port]

/-- What laying the options over the configuration says. -/
def CommandLine.Arguments.notices (a : CommandLine.Arguments) (c : Config) :
    List Settings.Notice :=
  (if Settings.acceptsTopic c.chat.topic then [] else [.startTopicRefused c.chat.topic])
    ++ (a.host.map Settings.Notice.hostSet).toList
    ++ (a.port.map Settings.Notice.portSet).toList
    ++ (a.topic.map c.settings.topicNotice).toList

/-! ## Listening -/

/-- An address in its brackets, if it stands in brackets. -/
def unbracket (host : List Char) : List Char :=
  match host with
  | '[' :: rest => if rest.getLast? == some ']' then rest.dropLast else host
  | _ => host

/-- Whether a spelling of four bytes is an address that every machine has for itself. -/
def isOwnIpv4 (host : List Char) : Bool :=
  host.getLast? != some '.'
    && match Url.Ipv4.parse? (Text.split '.' host) with
      | some a => a == 0 || a.octets.head? == some 127
      | none => false

/-- Whether a spelling of eight groups is an address that every machine has for itself. -/
def isOwnIpv6 (host : List Char) : Bool :=
  match Url.Ipv6.parse? host with
  | some a => a.groups.take 7 == List.replicate 7 0 && a.groups.all (· ≤ 1)
  | none => false

/-- Whether the control interface can be opened there: at an address that every machine has for
itself. Other names and addresses are not known to the relay. -/
def Config.Listener.canOpen (l : Config.Listener) : Bool :=
  let host := l.bind.toList
  host.map Char.toLower == "localhost".toList || isOwnIpv4 host || isOwnIpv6 (unbracket host)

/-! ## Running -/

namespace Startup

/-- What a run of the program comes to. -/
inductive Ending
  /-- A text was shown and nothing else done. -/
  | shown (text : String)
  /-- The command line was refused. -/
  | refused (text : String)
  /-- The relay could not be set up. -/
  | failed (reason : String)
  /-- The relay listened until it was interrupted. -/
  | served
  deriving DecidableEq, Repr

/-- The exit code of an ending. -/
def Ending.exitCode : Ending → Nat
  | .shown _ => 0
  | .refused _ => 2
  | .failed _ => 1
  | .served => 0

/-- A run of the program. -/
structure Run where
  /-- What was told on the way. -/
  messages : List String
  ending : Ending
  deriving DecidableEq, Repr

/-- What is told of a configuration that has been loaded. -/
def loadedMessage (c : Config) : String :=
  "Backend " ++ c.backend.host ++ ":" ++ Text.Numeral.ofNat c.backend.port.toNat ++ " (topic \""
    ++ c.chat.topic ++ "\"), recordings under " ++ c.recording.root

/-- Sets the relay up with a configuration and the options of a command line. -/
def serve (c : Config) (a : CommandLine.Arguments) : Run :=
  let told :=
    [loadedMessage c, c.service.name ++ " v" ++ CommandLine.versionNumber]
      ++ (a.notices c).map Settings.Notice.message
  if c.service.listener.canOpen then
    ⟨told ++ ["Control API listening on " ++ c.bindText], .served⟩
  else ⟨told, .failed ("Failed to bind control API on " ++ c.bindText)⟩

/-- Runs the program in the directory `here` up to where it waits for requests. -/
def run (d : Disk) (here : Path) (arguments : List String) : Run :=
  match CommandLine.read arguments with
  | .error (.shown flag) => ⟨[], .shown flag.text⟩
  | .error (.refused why) => ⟨[], .refused why.message⟩
  | .ok a =>
    match Config.load d here a.configName with
    | .error failure => ⟨[], .failed failure.message⟩
    | .ok c => serve c a

end Startup

end PushToTalk
