import PushToTalk.Json.Error
import PushToTalk.RawPath

/-
  What goes wrong between the relay and its backend, and how it is reported.

  A `Fault` is the failure of one exchange, a `Misread` a text that makes no sense, a `Failure`
  anything that stops a step of the relay.  All wording is in the functions `message`.
-/

namespace PushToTalk

/-! ## Exchanges -/

/-- Why one exchange with the backend failed. -/
inductive Fault
  /-- No answer came in time from the given address. -/
  | timeout (address : String)
  /-- No connection could be made to the given address. -/
  | connect (address : String)
  /-- The request could not be carried out. -/
  | request (url : String) (message : String)
  /-- The backend's address does not make a URL. -/
  | invalidUrl (reason : String)
  /-- The task that made the exchange ended without an answer. -/
  | aborted (reason : String)
  deriving DecidableEq, Repr

/-- The wording of a fault. -/
def Fault.message : Fault → String
  | .timeout address => "timed out waiting for a response from " ++ address
  | .connect address => "could not connect to " ++ address
  | .request url message => "request to " ++ url ++ " failed: " ++ message
  | .invalidUrl reason => "invalid backend url: " ++ reason
  | .aborted reason => "request task ended abnormally: " ++ reason

/-! ## Texts -/

/-- Why a text was not understood. -/
inductive Misread
  /-- The answer to a tick request is no tick object. -/
  | tick (body : String) (why : Json.Error)
  /-- The answer to a file creation names no file. -/
  | creation (body : String) (why : Json.Error)
  /-- The path has no file name, or one whose stem is no text. -/
  | nameless (path : RawPath)
  /-- The file name does not start with a digit. -/
  | withoutId (stem : String)
  /-- The digits in front of the file name are too large for a user id. -/
  | idTooLarge (digits : String) (stem : String)
  /-- A misreading described in words. -/
  | other (description : String)
  deriving Repr

/-- The wording of a misreading. -/
def Misread.message : Misread → String
  | .tick body why => "bad tick data " ++ Text.quoted body ++ ": " ++ why.message
  | .creation body why => "bad createFile response " ++ Text.quoted body ++ ": " ++ why.message
  | .nameless path => "no usable file name in " ++ path.quoted
  | .withoutId stem => Text.quoted stem ++ " does not start with a user id"
  | .idTooLarge digits stem =>
    "user id " ++ digits ++ " in " ++ Text.quoted stem
      ++ ": number too large to fit in target type"
  | .other description => description

/-! ## Failures of the relay -/

/-- Why a step of the relay failed. -/
inductive Failure
  /-- An exchange with the backend failed. -/
  | exchange (fault : Fault)
  /-- A text was not understood. -/
  | misread (why : Misread)
  /-- The disk refused. -/
  | disk (description : String)
  /-- The backend took in the file and then refused it. -/
  | rejected (path : Path) (message : String)
  /-- The surroundings of the relay failed. -/
  | runtime (description : String)
  deriving Repr

/-- The wording of a failure. -/
def Failure.message : Failure → String
  | .exchange fault => "Transport: " ++ fault.message
  | .misread why => "Parse: " ++ why.message
  | .disk description => "Filesystem: " ++ description
  | .rejected path message => "Backend rejected " ++ Text.quoted path.text ++ ": " ++ message
  | .runtime description => "Runtime: " ++ description

end PushToTalk
