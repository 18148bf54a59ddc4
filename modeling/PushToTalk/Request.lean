import PushToTalk.Disk
import PushToTalk.Fault

/-
  Requests to the backend and the answers to them.

  A request keeps its path as a list of raw segments, so that names and ids are escaped where the
  address is written and cannot run into their neighbours.
-/

namespace PushToTalk

/-- The methods of the backend's protocol. -/
inductive Method
  | get
  | post
  | put
  deriving DecidableEq, Repr

/-- The name of a method. -/
def Method.name : Method → String
  | .get => "GET"
  | .post => "POST"
  | .put => "PUT"

/-- What the backend takes as a body. -/
inductive ContentType
  /-- Plain text. -/
  | text
  /-- Raw bytes. -/
  | raw
  deriving DecidableEq, Repr

/-- The media type of a body. -/
def ContentType.mime : ContentType → String
  | .text => "text/plain"
  | .raw => "application/octet-stream"

/-- One request to the backend. -/
structure Request where
  method : Method
  /-- The segments of the path, unescaped. -/
  segments : List String
  /-- The pairs of the query, unescaped, in order. -/
  query : List (String × String)
  contentType : ContentType
  /-- The body, if there is one. -/
  body : Option Bytes
  deriving DecidableEq, Repr

namespace Request

/-- A request without query and body. -/
def make (method : Method) (segments : List String) : Request :=
  ⟨method, segments, [], .text, none⟩

/-- Adds a pair at the end of the query. -/
def withQuery (r : Request) (key value : String) : Request :=
  { r with query := r.query ++ [(key, value)] }

/-- Attaches raw bytes as the body. -/
def withBytes (r : Request) (bytes : Bytes) : Request :=
  { r with contentType := .raw, body := some bytes }

/-- The path as a log shows it: the raw segments, a slash in front of each. -/
def path (r : Request) : String := "/" ++ "/".intercalate r.segments

/-- The length of the body; a request without one has length zero. -/
def contentLength (r : Request) : Nat := (r.body.map List.length).getD 0

end Request

/-- How an exchange ends. -/
inductive Answer
  /-- The backend answered with this body. -/
  | body (text : String)
  /-- The exchange failed. -/
  | fault (f : Fault)
  /-- The task that made the exchange died in it. -/
  | death
  deriving DecidableEq, Repr

end PushToTalk
