import PushToTalk.Fault
import PushToTalk.Table

/-
  The users of the voice session: their names, when they last spoke, who is speaking.

  A user has a record from the first time they are named or heard; records are never removed.
  A user who reconnects comes with a new id and is another user.
-/

namespace PushToTalk

/-- A user's number, given by the voice host. -/
abbrev UserId := UInt32

/-- Milliseconds on the relay's clock. -/
abbrev Instant := Int

namespace UserId

/-- The name of a user whom the host never named. -/
def fallbackName (user : UserId) : String := "User" ++ Text.Numeral.ofNat user.toNat

/-- The user whom the digits at the front of a stem name. -/
def ofStem (stem : String) : Except Misread UserId :=
  let ds := stem.toList.takeWhile Text.Numeral.isDigit
  if ds.isEmpty then .error (.withoutId stem)
  else if Text.Numeral.value ds < UInt32.size then .ok (UInt32.ofNat (Text.Numeral.value ds))
  else .error (.idTooLarge (String.ofList ds) stem)

/-- The user whose recording a file holds.  A name that is no text is nobody's. -/
def ofRaw (p : RawPath) : Except Misread UserId :=
  match p.stemText? with
  | none => .error (.nameless p)
  | some stem => ofStem stem

/-- The user whose recording a file holds, where the path is a text. -/
def ofPath (p : Path) : Except Misread UserId := ofRaw p.raw

end UserId

/-- What is known of one user. -/
structure UserRecord where
  name : String
  /-- When the last speech frame came, if one came. -/
  lastSpoke : Option Instant
  speaking : Bool
  deriving DecidableEq, Repr

/-- The record of a user who was just seen for the first time. -/
def UserRecord.fresh (user : UserId) : UserRecord := ⟨user.fallbackName, none, false⟩

/-- How long a user has been silent; a time still to come counts as no silence at all. -/
def UserRecord.silence (r : UserRecord) (now : Instant) (timeout : Nat) : Nat :=
  match r.lastSpoke with
  | some spoke => (now - spoke).toNat
  | none => timeout

/-- A record after a sweep: silence of at least `timeout` ends speaking. -/
def UserRecord.sweep (r : UserRecord) (now : Instant) (timeout : Nat) : UserRecord :=
  if r.speaking && timeout ≤ r.silence now timeout then { r with speaking := false }
  else r

@[simp] theorem UserRecord.sweep_name (r : UserRecord) (now : Instant) (timeout : Nat) :
    (r.sweep now timeout).name = r.name := by
  unfold sweep
  split <;> rfl

@[simp] theorem UserRecord.sweep_lastSpoke (r : UserRecord) (now : Instant) (timeout : Nat) :
    (r.sweep now timeout).lastSpoke = r.lastSpoke := by
  unfold sweep
  split <;> rfl

@[simp] theorem UserRecord.sweep_speaking (r : UserRecord) (now : Instant) (timeout : Nat) :
    (r.sweep now timeout).speaking = (r.speaking && r.silence now timeout < timeout) := by
  unfold sweep
  split
  · next h => simp_all
  · next h => cases hs : r.speaking <;> simp_all

/-- Every user seen so far. -/
abbrev UserDirectory := Table UserId UserRecord

namespace UserDirectory

/-- The record of a user, made now if there is none. -/
def record (users : UserDirectory) (user : UserId) : UserRecord :=
  (users.get? user).getD (.fresh user)

/-- Sets a user's name. -/
def setName (users : UserDirectory) (user : UserId) (name : String) : UserDirectory :=
  users.put user { users.record user with name }

/-- The name of a user who was seen. -/
def nameOf? (users : UserDirectory) (user : UserId) : Option String :=
  (users.get? user).map (·.name)

/-- Notes a speech frame. -/
def markSpeaking (users : UserDirectory) (user : UserId) (now : Instant) : UserDirectory :=
  users.put user { users.record user with lastSpoke := some now, speaking := true }

/-- Ends the speaking of everyone who has been silent for `timeout`. -/
def sweep (users : UserDirectory) (now : Instant) (timeout : Nat) : UserDirectory :=
  Table.map (fun _ r => r.sweep now timeout) users

/-- Whether anyone goes on speaking through a sweep, as the sweep itself finds out. -/
def stillSpeaking (users : UserDirectory) (now : Instant) (timeout : Nat) : Bool :=
  users.values.any fun r => r.speaking && r.silence now timeout < timeout

/-- Whether anyone is speaking. -/
def anyoneSpeaking (users : UserDirectory) : Bool := users.values.any (·.speaking)

end UserDirectory

end PushToTalk
