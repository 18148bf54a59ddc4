import PushToTalk.Json.Record
import PushToTalk.Json.Text
import PushToTalk.Request
import PushToTalk.User

/-
  Ticks: the backend's simulation time at which an utterance started.

  A tick is fetched when a user starts to speak.  The retry cache remembers the tick of a file
  that failed, so that a retried file is filed under the speech that produced it and not under
  whatever its user said last.
-/

namespace PushToTalk

/-- The tick of an utterance, as far as the backend gave it. -/
structure TickData where
  tickId : Option Int64
  elapsed : Option Int64
  deriving DecidableEq, Repr

namespace TickData

/-- No tick at all. -/
def unknown : TickData := ⟨none, none⟩

/-- Both values, if both are known. -/
def complete (t : TickData) : Option (Int64 × Int64) :=
  match t.tickId, t.elapsed with
  | some i, some e => some (i, e)
  | _, _ => none

/-! ## JSON -/

/-- A field that may hold a whole number of 64 bits. -/
def field (name : String) : Json.Field :=
  ⟨name, .integer (-Int.pow 2 63) (Int.pow 2 63 - 1) "i64", true⟩

/-- The fields of a tick. -/
def shape : Json.Shape := ⟨"TickData", [field "tickId", field "elapsed"]⟩

/-- The number in a field. -/
def word : Option Json.Scalar → Option Int64
  | some (.integer n) => some (Int64.ofInt n)
  | _ => none

/-- Reads the answer to a tick request. Missing fields are left open. -/
def parse (body : String) : Except Misread TickData :=
  match shape.parse body with
  | .ok [i, e] => .ok ⟨word i, word e⟩
  | .ok _ => .ok unknown
  | .error why => .error (.tick body why)

/-- A field as it is written. -/
def written : Option Int64 → Json.Written
  | some n => .integer n.toInt
  | none => .null

/-- The tick as JSON. -/
def json (t : TickData) : String :=
  Json.writeObject [("tickId", written t.tickId), ("elapsed", written t.elapsed)]

/-! ## Fetching -/

/-- The request that fetches the present tick. -/
def request : Request := .make .get ["replay", "tick"]

/-- The tick that an answer gives; nothing is known after a failure. -/
def ofAnswer : Answer → TickData
  | .body text =>
    match parse text with
    | .ok t => t
    | .error _ => unknown
  | .fault _ => unknown
  | .death => unknown

end TickData

/-- Ticks of files that failed to upload. -/
abbrev RetryCache := Table Path TickData

end PushToTalk
