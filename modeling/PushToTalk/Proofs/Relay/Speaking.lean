import PushToTalk.Proofs.Relay.Fetching
import PushToTalk.Proofs.Relay.Session

/-
  Who is speaking in the course of a history.

  Recording goes on as long as somebody speaks, and who speaks is what the relay makes of single
  reports: a user was heard at some time, and nothing is said when they fall silent.  A record holds
  one time and one flag, whatever has happened to its user.  That is enough:

  1. **The last speech** (`LastHears`) — the time in a record is that of the user's last speech.
     Last is meant in the order of the steps; the times that the steps carry may go back and forth.

  2. **The sweeps since** (`InTime`) — the flag is set as long as every sweep since the last speech
     came less than the timeout after it.  Earlier sweeps do not count, as the speech has set the
     flag again, and a sweep that finds the flag cleared leaves it so.

  3. **Records** — `Traces` puts the two together, and there is one lemma for each kind of step:
     speech of the user (`Traces.hear`), a sweep (`Traces.sweep`), and anything else
     (`Traces.stay`).

  4. **The answer of a sweep** is found out while the records are changed, so it has to be shown to
     be what the records say afterwards (`stillSpeaking_eq`).

  A sweep at a time before the speech counts as no time after it, as the difference of the two is
  cut off at zero.

  Main statement: `users_traced`.
-/

namespace PushToTalk

/-- A step that names or hears a user. -/
def Move.isAbout (user : UserId) : Move → Bool
  | .setName user' _ | .speech user' _ => user' == user
  | _ => false

/-! ## The directory -/

namespace UserDirectory

/-- What a sweep finds out about the records is what they say after it. -/
theorem stillSpeaking_eq (users : UserDirectory) (now : Instant) (timeout : Nat) :
    users.stillSpeaking now timeout = (users.sweep now timeout).anyoneSpeaking := by
  have hvalues : (users.sweep now timeout).values = users.values.map (·.sweep now timeout) := by
    simp [sweep, Table.values, Table.map, Function.comp_def]
  unfold stillSpeaking anyoneSpeaking
  rw [hvalues, List.any_map]
  congr 1
  funext r
  exact (r.sweep_speaking now timeout).symm

/-- Only a user with a record is speaking. -/
theorem isSpeaking_iff (users : UserDirectory) (user : UserId) :
    (users.record user).speaking = true ↔
      ∃ record, users.get? user = some record ∧ record.speaking = true := by
  unfold record
  cases users.get? user with
  | none => exact iff_of_false nofun nofun
  | some r => simp

/-- Where nobody has two records, anyone is speaking if and only if some user is. -/
theorem anyoneSpeaking_iff {users : UserDirectory} (h : users.keys.Nodup) :
    users.anyoneSpeaking = true ↔
      ∃ user record, users.get? user = some record ∧ record.speaking = true := by
  unfold anyoneSpeaking Table.values
  rw [List.any_map, List.any_eq_true]
  constructor
  · rintro ⟨⟨user, record⟩, hmem, hr⟩
    exact ⟨user, record, (Table.mem_entries_iff h).1 hmem, hr⟩
  · rintro ⟨user, record, hu, hr⟩
    exact ⟨(user, record), (Table.mem_entries_iff h).2 hu, hr⟩

end UserDirectory

namespace History

variable {h : History} {i k : Nat} {m : Move} {user : UserId} {t : Instant}

/-- No user has two records. -/
theorem nodup_users (h : History) (i : Nat) : (h.after i).station.users.keys.Nodup := by
  refine h.keeps (P := fun r => r.station.users.keys.Nodup) (i := 0) List.nodup_nil ?_
    (Nat.zero_le i)
  intro i m _ hm hnodup
  rw [after_succ hm, Relay.users_move (isStep_of_getElem? hm)]
  exact m.nodup_onUsers _ hnodup

/-- What is known of a user after one more step. -/
theorem known_succ (hm : h.steps[i]? = some m) (user : UserId) :
    (h.after (i + 1)).station.users.get? user =
      m.onRecord h.options.speakingTimeout user ((h.after i).station.users.get? user) := by
  rw [after_succ hm, Relay.get?_move (isStep_of_getElem? hm), h.options_after]

/-! ## The last speech and the sweeps since -/

/-- Step `k` is the last of the first `i` in which the user is heard, and it says `t`. -/
structure LastHears (h : History) (i k : Nat) (user : UserId) (t : Instant) : Prop where
  before : k < i
  heard : h.steps[k]? = some (.speech user t)
  last : ∀ j t', k < j → j < i → h.steps[j]? ≠ some (.speech user t')

/-- Every sweep after step `k`, among the first `i`, came less than the timeout after `t`; one that
came before `t` came no time after it. -/
def InTime (h : History) (i k : Nat) (t : Instant) : Prop :=
  ∀ j now, k < j → j < i → h.steps[j]? = some (.sweep now) →
    (now - t).toNat < h.options.speakingTimeout

/-- A speech is the last one, and any other step leaves the last one where it was. -/
theorem lastHears_succ : h.LastHears (i + 1) k user t ↔
    (k = i ∧ h.steps[i]? = some (.speech user t)) ∨
      ((∀ t', h.steps[i]? ≠ some (.speech user t')) ∧ h.LastHears i k user t) := by
  constructor
  · intro hlast
    rcases Nat.lt_succ_iff_lt_or_eq.1 hlast.before with hk | rfl
    · refine Or.inr ⟨fun t' => hlast.last i t' hk (Nat.lt_succ_self i), hk, hlast.heard, ?_⟩
      intro j t' hkj hji
      exact hlast.last j t' hkj (Nat.lt_succ_of_lt hji)
    · exact Or.inl ⟨rfl, hlast.heard⟩
  · rintro (⟨rfl, hs⟩ | ⟨hne, hlast⟩)
    · exact ⟨Nat.lt_succ_self k, hs, fun j t' hkj hjk => by omega⟩
    · refine ⟨Nat.lt_succ_of_lt hlast.before, hlast.heard, fun j t' hkj hji => ?_⟩
      rcases Nat.lt_succ_iff_lt_or_eq.1 hji with hj | rfl
      · exact hlast.last j t' hkj hj
      · exact hne t'

/-- No sweep came since a speech that has just been. -/
theorem inTime_self (h : History) (i : Nat) (t : Instant) : h.InTime (i + 1) i t :=
  fun j _ hij hji => by omega

/-- One more step is in time if it is no sweep, or one that came in time. -/
theorem inTime_succ (hk : k < i) : h.InTime (i + 1) k t ↔ h.InTime i k t ∧
    ∀ now, h.steps[i]? = some (.sweep now) → (now - t).toNat < h.options.speakingTimeout := by
  constructor
  · intro hin
    exact ⟨fun j now hkj hji => hin j now hkj (Nat.lt_succ_of_lt hji),
      fun now => hin i now hk (Nat.lt_succ_self i)⟩
  · rintro ⟨hin, hnow⟩ j now hkj hji hs
    rcases Nat.lt_succ_iff_lt_or_eq.1 hji with hj | rfl
    · exact hin j now hkj hj hs
    · exact hnow now hs

/-! ## Records -/

/-- A user was named or heard in the first `i` steps. -/
def Mentioned (h : History) (i : Nat) (user : UserId) : Prop :=
  ∃ k m, k < i ∧ h.steps[k]? = some m ∧ m.isAbout user = true

/-- A user was mentioned before, or is mentioned in the last step. -/
theorem mentioned_succ : h.Mentioned (i + 1) user ↔
    h.Mentioned i user ∨ ∃ m, h.steps[i]? = some m ∧ m.isAbout user = true := by
  constructor
  · rintro ⟨k, m, hk, hm, habout⟩
    rcases Nat.lt_succ_iff_lt_or_eq.1 hk with hk | rfl
    · exact Or.inl ⟨k, m, hk, hm, habout⟩
    · exact Or.inr ⟨m, hm, habout⟩
  · rintro (⟨k, m, hk, hm, habout⟩ | ⟨m, hm, habout⟩)
    · exact ⟨k, m, Nat.lt_succ_of_lt hk, hm, habout⟩
    · exact ⟨i, m, Nat.lt_succ_self i, hm, habout⟩

/-- A user has a record if and only if they were named or heard. -/
theorem has_record_iff (h : History) (i : Nat) (user : UserId) :
    (h.after i).station.users.has user = true ↔ h.Mentioned i user := by
  rw [Table.has_eq_isSome]
  refine h.keeps_from (i := 0)
    (P := fun i => ((h.after i).station.users.get? user).isSome = true ↔ h.Mentioned i user)
    ?_ ?_ ?_ (Nat.zero_le i)
  · exact iff_of_false nofun fun ⟨k, _, hk, _⟩ => Nat.not_lt_zero k hk
  · intro i m _ hm ih
    have hnew : (∃ m', h.steps[i]? = some m' ∧ m'.isAbout user = true) ↔
        m.isAbout user = true := by
      rw [hm]
      exact ⟨fun ⟨m', he, habout⟩ => Option.some.inj he ▸ habout, fun habout => ⟨m, rfl, habout⟩⟩
    rw [mentioned_succ, ← ih, hnew, known_succ hm]
    cases m with
    | setName user' name =>
      by_cases hu : user' = user <;> simp [Move.onRecord, Move.isAbout, hu]
    | speech user' now =>
      by_cases hu : user' = user <;> simp [Move.onRecord, Move.isAbout, hu]
    | sweep now => simp [Move.onRecord, Move.isAbout]
    | _ => simp [Move.onRecord, Move.isAbout]
  · intro i hm ih
    rw [mentioned_succ, ← ih, after_succ_of_none hm, hm]
    simp

/-- How the time and the flag in the record of a user stand to what has happened. -/
structure Traces (h : History) (i : Nat) (user : UserId) : Prop where
  lastSpoke : ∀ t, ((h.after i).station.users.record user).lastSpoke = some t ↔
    ∃ k, h.LastHears i k user t
  speaking : (h.after i).isSpeaking user = true ↔
    ∃ k t, h.LastHears i k user t ∧ h.InTime i k t

/-- A step that is neither a speech of the user nor a sweep leaves time and flag as they were. -/
theorem Traces.stay (ht : h.Traces i user) (hne : ∀ t, h.steps[i]? ≠ some (.speech user t))
    (hns : ∀ now, h.steps[i]? ≠ some (.sweep now))
    (hlast : ((h.after (i + 1)).station.users.record user).lastSpoke =
      ((h.after i).station.users.record user).lastSpoke)
    (hflag : (h.after (i + 1)).isSpeaking user = (h.after i).isSpeaking user) :
    h.Traces (i + 1) user := by
  have hiff : ∀ k t, h.LastHears (i + 1) k user t ↔ h.LastHears i k user t := fun k t => by
    rw [lastHears_succ]
    exact ⟨fun hs => (hs.resolve_left fun hs => hne t hs.2).2, fun hs => Or.inr ⟨hne, hs⟩⟩
  constructor
  · intro t
    simp only [hiff]
    rw [hlast, ht.lastSpoke]
  · simp only [hiff]
    rw [hflag, ht.speaking]
    refine exists₂_congr fun k t => and_congr_right fun hs => ?_
    rw [inTime_succ hs.before]
    exact (and_iff_left fun now he => absurd he (hns now)).symm

/-- Speech sets both. -/
theorem Traces.hear (hm : h.steps[i]? = some (.speech user t)) : h.Traces (i + 1) user := by
  have hiff : ∀ k t', h.LastHears (i + 1) k user t' ↔ k = i ∧ t' = t := fun k t' => by
    rw [lastHears_succ, hm]
    constructor
    · rintro (⟨hk, he⟩ | ⟨hne, -⟩)
      · cases he
        exact ⟨hk, rfl⟩
      · exact absurd rfl (hne t)
    · rintro ⟨hk, rfl⟩
      exact Or.inl ⟨hk, rfl⟩
  have hrecord : ((h.after (i + 1)).station.users.record user).lastSpoke = some t ∧
      (h.after (i + 1)).isSpeaking user = true := by
    unfold Relay.isSpeaking UserDirectory.record
    rw [known_succ hm]
    simp [Move.onRecord]
  constructor
  · intro t'
    simp only [hiff]
    rw [hrecord.1]
    constructor
    · rintro ⟨⟩
      exact ⟨i, rfl, rfl⟩
    · rintro ⟨-, -, rfl⟩
      rfl
  · refine iff_of_true hrecord.2 ⟨i, t, (hiff i t).2 ⟨rfl, rfl⟩, h.inTime_self i t⟩

/-- A sweep clears the flag if it came too late, and leaves the time as it was. -/
theorem Traces.sweep (ht : h.Traces i user) {now : Instant}
    (hm : h.steps[i]? = some (.sweep now)) : h.Traces (i + 1) user := by
  have hiff : ∀ k t, h.LastHears (i + 1) k user t ↔ h.LastHears i k user t := fun k t => by
    rw [lastHears_succ, hm]
    exact ⟨fun hs => (hs.resolve_left nofun).2, fun hs => Or.inr ⟨nofun, hs⟩⟩
  have hrecord : (h.after (i + 1)).station.users.record user =
      ((h.after i).station.users.record user).sweep now h.options.speakingTimeout := by
    unfold UserDirectory.record
    rw [known_succ hm]
    cases (h.after i).station.users.get? user <;> rfl
  constructor
  · intro t
    simp only [hiff]
    rw [hrecord, UserRecord.sweep_lastSpoke, ht.lastSpoke]
  · have hflag : (h.after (i + 1)).isSpeaking user = true ↔ (h.after i).isSpeaking user = true ∧
        ((h.after i).station.users.record user).silence now h.options.speakingTimeout <
          h.options.speakingTimeout := by
      unfold Relay.isSpeaking
      rw [hrecord, UserRecord.sweep_speaking, Bool.and_eq_true, decide_eq_true_iff]
    -- the sweep goes by the time in the record, which is that of the last speech
    have hsilence : ∀ {k t}, h.LastHears i k user t →
        ((h.after i).station.users.record user).silence now h.options.speakingTimeout =
          (now - t).toNat := fun {k t} hs => by
      rw [UserRecord.silence, (ht.lastSpoke t).2 ⟨k, hs⟩]
    simp only [hiff]
    rw [hflag, ht.speaking]
    constructor
    · rintro ⟨⟨k, t, hs, hin⟩, hlate⟩
      rw [hsilence hs] at hlate
      refine ⟨k, t, hs, (inTime_succ hs.before).2 ⟨hin, fun now' he => ?_⟩⟩
      rw [hm] at he
      cases he
      exact hlate
    · rintro ⟨k, t, hs, hin⟩
      obtain ⟨hin, hlate⟩ := (inTime_succ hs.before).1 hin
      exact ⟨⟨k, t, hs, hin⟩, by rw [hsilence hs]; exact hlate now hm⟩

/-- Time and flag are determined by what has happened. -/
theorem traces_after (h : History) (i : Nat) (user : UserId) : h.Traces i user := by
  refine h.keeps_from (i := 0) (P := fun i => h.Traces i user) ?_ ?_ ?_ (Nat.zero_le i)
  · have hnone : ∀ k t, ¬ h.LastHears 0 k user t := fun k t hs => Nat.not_lt_zero k hs.before
    exact ⟨fun t => iff_of_false nofun fun ⟨k, hs⟩ => hnone k t hs,
      iff_of_false nofun fun ⟨k, t, hs, _⟩ => hnone k t hs⟩
  · intro i m _ hm ht
    -- speech of another user falls under the last case
    by_cases hspeech : ∃ t, m = .speech user t
    · obtain ⟨t, rfl⟩ := hspeech
      exact .hear hm
    by_cases hsweep : ∃ now, m = .sweep now
    · obtain ⟨now, rfl⟩ := hsweep
      exact ht.sweep hm
    have hrecord : ((h.after (i + 1)).station.users.record user).lastSpoke =
          ((h.after i).station.users.record user).lastSpoke ∧
        (h.after (i + 1)).isSpeaking user = (h.after i).isSpeaking user := by
      unfold Relay.isSpeaking UserDirectory.record
      rw [known_succ hm]
      cases m with
      | setName user' name => by_cases hu : user' = user <;> simp [Move.onRecord, hu]
      | speech user' now =>
        have hu : user' ≠ user := fun hu => hspeech ⟨now, by rw [hu]⟩
        simp [Move.onRecord, hu]
      | sweep now => exact absurd ⟨now, rfl⟩ hsweep
      | _ => exact ⟨rfl, rfl⟩
    refine ht.stay (fun t he => hspeech ⟨t, ?_⟩) (fun now he => hsweep ⟨now, ?_⟩) hrecord.1 hrecord.2
    · exact Option.some.inj (hm.symm.trans he)
    · exact Option.some.inj (hm.symm.trans he)
  · intro i hm ht
    refine ht.stay (fun t he => ?_) (fun now he => ?_) ?_ ?_
    · rw [hm] at he
      cases he
    · rw [hm] at he
      cases he
    · rw [after_succ_of_none hm]
    · rw [after_succ_of_none hm]

/-- What is known of the users after the first `i` steps of a history. -/
structure UsersTraced (h : History) (i : Nat) : Prop where
  /-- A user has a record if and only if they were named or heard. -/
  seen : ∀ user, (h.after i).station.users.has user = true ↔ h.Mentioned i user
  /-- The name in it is the last one given, and the one made from the user's number before. -/
  name : ∀ user record, (h.after i).station.users.get? user = some record →
    record.name = h.nameAt i user
  /-- The time in it is that of the last speech. -/
  lastSpoke : ∀ user record t, (h.after i).station.users.get? user = some record →
    (record.lastSpoke = some t ↔ ∃ k, h.LastHears i k user t)
  /-- The user is speaking if and only if they were heard and every sweep since the last speech
  came less than the timeout after it. -/
  speaking : ∀ user, (∃ record, (h.after i).station.users.get? user = some record ∧
    record.speaking = true) ↔ ∃ k t, h.LastHears i k user t ∧ h.InTime i k t
  /-- A sweep answers whether any user is speaking after it. -/
  answer : ∀ now, h.steps[i]? = some (.sweep now) →
    ((h.after i).stillSpeaking now = true ↔ ∃ user record,
      (h.after (i + 1)).station.users.get? user = some record ∧ record.speaking = true)
  /-- A step about one user leaves every other record as it was, and so does any step that is about
  no user and is no sweep. -/
  others : ∀ m user, h.steps[i]? = some m → m.isAbout user = false → (∀ now, m ≠ .sweep now) →
    (h.after (i + 1)).station.users.get? user = (h.after i).station.users.get? user
  /-- A sweep may clear flags and does nothing else. -/
  cleared : ∀ now user, h.steps[i]? = some (.sweep now) →
    (h.after (i + 1)).station.users.get? user = (h.after i).station.users.get? user ∨
      ∃ record, (h.after i).station.users.get? user = some record ∧
        (h.after (i + 1)).station.users.get? user = some { record with speaking := false }

/-- What is known of the users is determined by who was named, who was heard and when sweeps
came. -/
theorem users_traced (h : History) (i : Nat) : h.UsersTraced i := by
  constructor
  · exact h.has_record_iff i
  · intro user record hr
    rw [← h.name_after i user, UserDirectory.record, hr]
    rfl
  · intro user record t hr
    rw [← (h.traces_after i user).lastSpoke, UserDirectory.record, hr]
    rfl
  · intro user
    rw [← (h.traces_after i user).speaking]
    exact (UserDirectory.isSpeaking_iff _ user).symm
  · intro now hm
    have hanswer : (h.after i).stillSpeaking now = (h.after (i + 1)).anyoneSpeaking := by
      rw [after_succ hm]
      exact UserDirectory.stillSpeaking_eq _ now _
    rw [hanswer]
    exact UserDirectory.anyoneSpeaking_iff (h.nodup_users (i + 1))
  · -- a step that is about somebody else and no sweep
    intro m user hm habout hns
    rw [known_succ hm]
    cases m with
    | setName user' name =>
      have hu : user' ≠ user := by simpa [Move.isAbout] using habout
      exact if_neg hu
    | speech user' now =>
      have hu : user' ≠ user := by simpa [Move.isAbout] using habout
      exact if_neg hu
    | sweep now => exact absurd rfl (hns now)
    | _ => rfl
  · intro now user hm
    rw [known_succ hm]
    simp only [Move.onRecord]
    cases (h.after i).station.users.get? user with
    | none => exact Or.inl rfl
    | some record =>
      rw [Option.map_some, UserRecord.sweep]
      split
      · exact Or.inr ⟨record, rfl, rfl⟩
      · exact Or.inl rfl

end History

end PushToTalk
