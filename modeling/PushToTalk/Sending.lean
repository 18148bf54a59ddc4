import PushToTalk.Url.Address

/-
  Sending a request to the backend.

  The address is built anew from the settings in force each time, so that a change of settings
  holds from the next request on.
-/

namespace PushToTalk

/-- The text of the base address, as a fault shows it. -/
def Settings.baseText (s : Settings) : String :=
  "http://" ++ s.host ++ ":" ++ Text.Numeral.ofNat s.port.toNat ++ "/"

/-- The address of a request under the given settings. -/
def Settings.address (s : Settings) (r : Request) : Except Fault Url.Address :=
  match Url.Base.parse s.host s.port with
  | .ok base => .ok (.ofRequest base r)
  | .error flaw => .error (.invalidUrl (s.baseText ++ ": " ++ flaw.message))

/-- What comes of a request while nothing at all can be reached. -/
inductive Unreached
  /-- There is no address to send it to, or nothing is there. -/
  | fault (f : Fault)
  /-- The address cannot be requested. -/
  | unusable (url : String)
  deriving DecidableEq, Repr

/-- Sends a request while nothing can be reached. -/
def Settings.sendNowhere (s : Settings) (r : Request) : Unreached :=
  match s.address r with
  | .error f => .fault f
  | .ok a => if a.isUsable then .fault (.connect a.text) else .unusable a.text

end PushToTalk
