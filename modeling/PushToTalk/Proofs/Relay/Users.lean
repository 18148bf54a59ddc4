import PushToTalk.Proofs.Relay.History
import PushToTalk.Proofs.Table

/-
  What a step does to the users.

  The relay knows of each user a name, when they spoke last, and whether they are speaking.  Naming
  a user, hearing a user and sweeping are the only steps that change what is known.  The first two
  change one record each, and a sweep treats every record alike.  So what is known of a user after a
  step hangs on the step and on what was known of that user before, and on nothing else in the
  relay.

  1. **One step, one user** — what a step does to the table of users, and what it does to one
     record; the second tells the first (`Move.get?_onUsers`).

  2. **All steps** — no other step touches the table (`users_move`), in particular no worker and no
     exchange.

  A look of the detector is a sweep and a comparison, and is told as these two.

  Main statements: `Relay.users_move` and `Relay.get?_move`.
-/

namespace PushToTalk

open Upload (Worker)

/-! ## One step, one user -/

/-- What is known of the users after a step. -/
def Move.onUsers (timeout : Nat) (users : UserDirectory) : Move → UserDirectory
  | .setName user name => users.setName user name
  | .speech user now => users.markSpeaking user now
  | .sweep now => users.sweep now timeout
  | _ => users

/-- What is known of one user after a step. -/
def Move.onRecord (timeout : Nat) (user : UserId) (known : Option UserRecord) :
    Move → Option UserRecord
  | .setName user' name =>
    if user' = user then some { known.getD (.fresh user) with name } else known
  | .speech user' now =>
    if user' = user then
      some { known.getD (.fresh user) with lastSpoke := some now, speaking := true }
    else known
  | .sweep now => known.map fun r => r.sweep now timeout
  | _ => known

/-- Each user has a record of their own. -/
theorem Move.get?_onUsers (m : Move) (timeout : Nat) (users : UserDirectory) (user : UserId) :
    (m.onUsers timeout users).get? user = m.onRecord timeout user (users.get? user) := by
  cases m with
  | setName user' name =>
    show (users.put user' _).get? user = _
    rw [Table.get?_put]
    by_cases hu : user' = user
    · subst hu
      simp [onRecord, UserDirectory.record]
    · simp [onRecord, hu]
  | speech user' now =>
    show (users.put user' _).get? user = _
    rw [Table.get?_put]
    by_cases hu : user' = user
    · subst hu
      simp [onRecord, UserDirectory.record]
    · simp [onRecord, hu]
  | sweep now => exact Table.get?_map _ _ _
  | _ => rfl

/-- Nobody gets a second record. -/
theorem Move.nodup_onUsers (m : Move) (timeout : Nat) {users : UserDirectory}
    (h : users.keys.Nodup) : (m.onUsers timeout users).keys.Nodup := by
  cases m with
  | setName user name => exact Table.nodup_keys_put h _ _
  | speech user now => exact Table.nodup_keys_put h _ _
  | sweep now =>
    have hkeys : (users.sweep now timeout).keys = users.keys := by
      simp [UserDirectory.sweep, Table.keys, Table.map, Function.comp_def]
    show (users.sweep now timeout).keys.Nodup
    rw [hkeys]
    exact h
  | _ => exact h

/-- No step of a worker touches the users. -/
theorem Upload.Worker.Advances.users {answer? : FetchId → Option Answer} {s s' : Station}
    {w w' : Worker} (h : Worker.Advances answer? s w s' w') : s'.users = s.users := by
  cases h with
  | clear =>
    unfold Station.delete
    split <;> rfl
  | _ => rfl

/-- No exchange does. -/
theorem Upload.Worker.Receives.users {answer : Answer} {s s' : Station} {w w' : Worker}
    (h : Worker.Receives s w answer s' w') : s'.users = s.users := by
  cases h <;> rfl

namespace Relay

/-- A flush does not either. -/
theorem users_flush (r : Relay) : r.flush.1.station.users = r.station.users := by
  rcases flush_cases r with ⟨queue, id, -, he⟩ | he
  · rw [he]
  · rw [he]
    rfl

/-- Hearing a user is noted in the record of that user, whether a tick is asked for or not. -/
theorem users_reportSpeech (r : Relay) (user : UserId) (now : Instant) :
    (r.reportSpeech user now).station.users = r.station.users.markSpeaking user now := by
  unfold reportSpeech
  dsimp only
  split <;> rfl

/-- No other step changes what is known of the users. -/
theorem users_move {m : Move} (hm : m.IsStep) (r : Relay) :
    (r.move m).station.users = m.onUsers r.options.speakingTimeout r.station.users := by
  cases m with
  | setName user name => rfl
  | speech user now => exact r.users_reportSpeech user now
  | sweep now => rfl
  | toggle was =>
    show (r.toggleIfEdge was).station.users = r.station.users
    unfold toggleIfEdge
    split <;> rfl
  | notify => rfl
  | flush => exact r.users_flush
  | flushIfStopped =>
    show r.flushIfStopped.1.station.users = r.station.users
    unfold flushIfStopped
    split
    · exact r.takeStopped.users_flush
    · rfl
  | poll was now => cases hm
  | record name node =>
    show (r.record name node).station.users = r.station.users
    rcases record_cases r name node with he | ⟨folder, disk, -, -, he⟩ <;> rw [he]
  | fetch =>
    show r.promote.station.users = r.station.users
    unfold promote
    split <;> rfl
  | tick id answer =>
    show (r.settleFetch id answer).station.users = r.station.users
    unfold settleFetch
    split <;> rfl
  | dispatch =>
    show r.dispatch.station.users = r.station.users
    rcases dispatch_cases r with he | ⟨queue, -, he⟩ <;> rw [he]
  -- a worker changes the station, but not its users
  | advance id =>
    show (r.advance id).station.users = r.station.users
    rcases advance_cases r id with he | ⟨w, s', w', -, hadv, he⟩ <;> rw [he]
    exact hadv.users
  | answer id answer =>
    show (r.answerWorker id answer).station.users = r.station.users
    rcases answerWorker_cases r id answer with he | ⟨w, s', w', request, file, -, -, -, hrec, he⟩ <;>
      rw [he]
    exact hrec.users
  | closeQueue => rfl

/-- What is known of a user after a step is told by the step and by what was known before. -/
theorem get?_move {m : Move} (hm : m.IsStep) (r : Relay) (user : UserId) :
    (r.move m).station.users.get? user =
      m.onRecord r.options.speakingTimeout user (r.station.users.get? user) := by
  rw [users_move hm, Move.get?_onUsers]

end Relay

end PushToTalk
