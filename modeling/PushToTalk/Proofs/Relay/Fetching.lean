import Mathlib.Data.Finset.Card
import Mathlib.Data.Finset.Dedup
import PushToTalk.Proofs.Relay.Handover
import PushToTalk.Proofs.Relay.Users

/-
  The account of tick fetches.

  The backend is asked for a tick whenever somebody begins to speak, but it is asked as seldom as
  possible: once for each user between one flush and the next, under the name that the user has
  then, and never by more than `maxFetches` requests at a time.  This module says so of every
  history, and tells to whom each fetch belongs.

  A history is cut into intervals by its flushes.  The first speech of a user in an interval starts
  a fetch, and the request for it is kept under the name that the user has then; the flush at the
  end of the interval takes it away.

  1. **Names** — a user has the name last given by the host, or one made of their number if the host
     has given none yet (`name_after`).

  2. **Intervals** — `heard` pairs every speech with the interval that it falls into, which is named
     by the number of flushes before it.  As pairs of an earlier interval never come up again,
     "heard since the last flush" is "paired with the present number".

  3. **Holders** — a request is held by the detector until a flush, and by the job of that flush
     from then on.

  4. **The tally** — what of this is kept by every step.  Its crux is `Tally.ids`: the fetches of
     all requests held, one holder after the other, are the numbers of fetches in the order in which
     they were started.  So no fetch has two holders, and none has lost its holder; and a flush,
     which only moves requests from the last holder to the one before, leaves the list as it is.

  A job that the queue refuses is a holder like any other here: its requests are lost, but not to
  anybody else.

  Main statement: `fetches_tallied`.
-/

namespace PushToTalk

/-! ## Names -/

/-- The name that a move gives to a user, if it gives one. -/
def Move.names? (user : UserId) : Move → Option String
  | .setName user' name => if user' = user then some name else none
  | _ => none

/-- Who is heard keeps their name; a user who was unknown gets the one made of their number,
which is what they were called before. -/
theorem UserDirectory.name_markSpeaking (users : UserDirectory) (user user' : UserId)
    (now : Instant) :
    ((users.markSpeaking user' now).record user).name = (users.record user).name := by
  unfold record markSpeaking
  rw [Table.get?_put]
  by_cases hu : user' = user
  · subst hu
    simp [record]
  · simp [hu]

/-- Only the host gives names. -/
theorem Relay.name_move {m : Move} (hm : m.IsStep) (r : Relay) (user : UserId) :
    ((r.move m).station.users.record user).name =
      (m.names? user).getD (r.station.users.record user).name := by
  unfold UserDirectory.record
  rw [get?_move hm]
  cases m with
  | setName user' name => by_cases hu : user' = user <;> simp [Move.onRecord, Move.names?, hu]
  | speech user' now => by_cases hu : user' = user <;> simp [Move.onRecord, Move.names?, hu]
  | sweep now =>
    cases r.station.users.get? user with
    | none => rfl
    | some known => exact known.sweep_name now _
  | _ => rfl

namespace History

variable {h : History} {i k n : Nat} {m : Move} {user : UserId} {request : PendingTick}

/-- The name that the host gave a user last in the first `i` steps. -/
def nameAt (h : History) (i : Nat) (user : UserId) : String :=
  ((h.steps.take i).filterMap (Move.names? user)).getLastD user.fallbackName

/-- One more step gives a user the name that it says, and leaves the name if it says none. -/
theorem nameAt_succ (hm : h.steps[i]? = some m) :
    h.nameAt (i + 1) user = (m.names? user).getD (h.nameAt i user) := by
  unfold nameAt
  rw [List.take_add_one, hm, Option.toList_some, List.filterMap_append]
  cases hn : m.names? user <;> simp [hn]

/-- A user has the name that the host gave them last, and the one made from their number before. -/
theorem name_after (h : History) (i : Nat) (user : UserId) :
    ((h.after i).station.users.record user).name = h.nameAt i user := by
  refine h.keeps_from (i := 0)
    (P := fun i => ((h.after i).station.users.record user).name = h.nameAt i user)
    rfl ?_ ?_ (Nat.zero_le i)
  · intro i m _ hm ih
    rw [after_succ hm, Relay.name_move (isStep_of_getElem? hm), nameAt_succ hm, ih]
  · intro i hm ih
    rw [after_succ_of_none hm, ih]
    unfold nameAt
    rw [List.take_add_one, hm, Option.toList_none, List.append_nil]

/-! ## Intervals -/

/-- Whether a flush takes place in step `i`; the decidable form of `FlushesAt`. -/
def flushes (h : History) (i : Nat) : Bool := h.steps[i]?.any (h.after i).flushesOn

/-- Whether a step is a flush, seen from the move that is made in it. -/
theorem flushes_eq (hm : h.steps[i]? = some m) : h.flushes i = (h.after i).flushesOn m := by
  rw [flushes, hm, Option.any_some]

/-- The decidable form says the same as the other. -/
theorem flushes_iff : h.flushes i = true ↔ h.FlushesAt i := by
  constructor
  · intro hf
    cases hm : h.steps[i]? with
    | none => simp [flushes, hm] at hf
    | some m => exact ⟨m, hm, (flushes_eq hm).symm.trans hf⟩
  · rintro ⟨m, hm, hf⟩
    exact (flushes_eq hm).trans hf

/-- How many flushes take place in the first `i` steps. -/
def flushCount (h : History) (i : Nat) : Nat := (List.range i).countP h.flushes

/-- A step adds to the flushes if it is one. -/
theorem flushCount_succ (h : History) (i : Nat) :
    h.flushCount (i + 1) = h.flushCount i + (h.flushes i).toNat := by
  unfold flushCount
  rw [List.range_succ, List.countP_append]
  cases hf : h.flushes i <;> simp [hf]

/-- Without a flush the interval goes on. -/
theorem flushCount_stay (hf : h.flushes i = false) : h.flushCount (i + 1) = h.flushCount i := by
  rw [flushCount_succ, hf, Bool.toNat_false, Nat.add_zero]

/-- The number of flushes never falls, so an interval that is over does not come back. -/
theorem flushCount_mono (h : History) : Monotone h.flushCount :=
  monotone_nat_of_le_succ fun i => h.flushCount_succ i ▸ Nat.le_add_right _ _

/-- The user who is heard in step `i`, if one is, and the number of flushes before. -/
def hearing? (h : History) (i : Nat) : Option (UserId × Nat) :=
  match h.steps[i]? with
  | some (.speech user _) => some (user, h.flushCount i)
  | _ => none

/-- Who was heard in the first `i` steps, each time with the number of flushes before. -/
def heard (h : History) (i : Nat) : List (UserId × Nat) := (List.range i).filterMap h.hearing?

/-- What one more step makes heard comes last. -/
theorem heard_succ (h : History) (i : Nat) :
    h.heard (i + 1) = h.heard i ++ (h.hearing? i).toList := filterMap_range_succ _ _

/-- In a step of speech its user is heard, in the present interval. -/
theorem hearing?_speech {now : Instant} (hm : h.steps[i]? = some (.speech user now)) :
    h.hearing? i = some (user, h.flushCount i) := by
  unfold hearing?
  rw [hm]

/-- Nobody is heard in a step that is not speech. -/
theorem hearing?_eq_none (hne : ∀ user now, h.steps[i]? ≠ some (.speech user now)) :
    h.hearing? i = none := by
  unfold hearing?
  split
  · next user now hm => exact absurd hm (hne user now)
  · rfl

/-- Whoever is heard in a step is heard in the present interval. -/
theorem flushCount_of_hearing? (hs : h.hearing? i = some (user, n)) : n = h.flushCount i := by
  unfold hearing? at hs
  split at hs
  · exact (Prod.mk.inj (Option.some.inj hs)).2.symm
  · cases hs

/-- Nobody was heard in an interval that is still to come. -/
theorem le_of_mem_heard (hs : (user, n) ∈ h.heard i) : n ≤ h.flushCount i := by
  obtain ⟨k, hk, hs⟩ := List.mem_filterMap.1 hs
  rw [flushCount_of_hearing? hs]
  exact h.flushCount_mono (Nat.le_of_lt (List.mem_range.1 hk))

/-- In step `k` the user is heard for the first time since the last flush. -/
def FirstHears (h : History) (k : Nat) (user : UserId) : Prop :=
  h.hearing? k = some (user, h.flushCount k) ∧ (user, h.flushCount k) ∉ h.heard k

/-! ## Holders -/

/-- Whoever may hold requests. -/
inductive Holder
  /-- The detector. -/
  | detector
  /-- The job of the flush in a step. -/
  | job (step : Nat)
  deriving DecidableEq, Repr

/-- After the first `i` steps a request of a user is held. -/
def Holds (h : History) (i : Nat) : Holder → UserId → PendingTick → Prop
  | .detector, user, request => (h.after i).pending.get? user = some request
  | .job k, user, request =>
    k < i ∧ h.FlushesAt k ∧ (h.jobAt k).pending.get? user = some request

/-- The requests of a holder under their users. -/
def Holder.holding (holder : Holder) (requests : PendingTicks) :
    List ((Holder × UserId) × PendingTick) :=
  requests.entries.map fun e => ((holder, e.1), e.2)

/-- The fetches of requests do not hang on who holds them. -/
theorem Holder.fetches_holding (holder : Holder) (requests : PendingTicks) :
    (holder.holding requests).map (·.2.fetch) = requests.values.map (·.fetch) := by
  simp [holding, Table.values]

/-- What a holder holds under a user is what the table of the holder says, as long as the table
has no key twice. -/
theorem Holder.mem_holding {holder holder' : Holder} {requests : PendingTicks}
    (hn : requests.keys.Nodup) : ((holder', user), request) ∈ holder.holding requests ↔
      holder = holder' ∧ requests.get? user = some request := by
  rw [← Table.mem_entries_iff hn, holding, List.mem_map]
  constructor
  · rintro ⟨⟨user', request'⟩, hm, he⟩
    cases he
    exact ⟨rfl, hm⟩
  · rintro ⟨rfl, hm⟩
    exact ⟨_, hm, rfl⟩

/-- The requests that the flushes in the first `i` steps took away. -/
def takenAway (h : History) (i : Nat) : List ((Holder × UserId) × PendingTick) :=
  ((List.range i).filter h.flushes).flatMap fun k => (Holder.job k).holding (h.jobAt k).pending

/-- All requests that are held after the first `i` steps. -/
def held (h : History) (i : Nat) : List ((Holder × UserId) × PendingTick) :=
  h.takenAway i ++ Holder.detector.holding (h.after i).pending

/-- A flush takes away what the detector holds; any other step takes nothing away. -/
theorem takenAway_succ (h : History) (i : Nat) : h.takenAway (i + 1) = h.takenAway i ++
    if h.flushes i then (Holder.job i).holding (h.after i).pending else [] := by
  unfold takenAway
  rw [List.range_succ, List.filter_append, List.flatMap_append]
  cases hf : h.flushes i
  · simp [hf]
  · simp [hf]
    rfl

/-! ## The tally -/

/-- How the requests stand to what was heard: the detector holds those of the present interval
(`keys`), each under the name of its first speech and with the number that its fetch got
(`named`); there are as many fetches as pairs of a user and an interval (`count`); and the
fetches of all requests held are the numbers below that, in order (`ids`). -/
structure Tally (h : History) (i : Nat) : Prop where
  nodup : (h.after i).pending.keys.Nodup
  keys : ∀ user, (h.after i).pending.has user = true ↔ (user, h.flushCount i) ∈ h.heard i
  named : ∀ user request, (h.after i).pending.get? user = some request →
    ∃ k < i, h.FirstHears k user ∧ h.flushCount k = h.flushCount i ∧
      request = ⟨h.nameAt k user, (h.after k).fetches.states.size⟩
  count : (h.after i).fetches.states.size = (h.heard i).toFinset.card
  ids : (h.held i).map (·.2.fetch) = List.range (h.after i).fetches.states.size

/-- A step that neither flushes nor hears anyone new. -/
theorem Tally.stay (ht : h.Tally i) (hf : h.flushes i = false)
    (hs : ∀ e ∈ h.hearing? i, e ∈ h.heard i)
    (hp : (h.after (i + 1)).pending = (h.after i).pending)
    (hsize : (h.after (i + 1)).fetches.states.size = (h.after i).fetches.states.size) :
    h.Tally (i + 1) := by
  have hcount := flushCount_stay hf
  have hmem : ∀ e, e ∈ h.heard (i + 1) ↔ e ∈ h.heard i := fun e => by
    rw [heard_succ, List.mem_append, Option.mem_toList]
    exact or_iff_left_of_imp (hs e)
  -- the requests are the same, and so is the interval that they are measured against
  constructor
  · rw [hp]
    exact ht.nodup
  · intro user
    rw [hp, hcount, hmem]
    exact ht.keys user
  · intro user request hr
    rw [hp] at hr
    obtain ⟨k, hk, hfirst, hsame, hname⟩ := ht.named user request hr
    exact ⟨k, Nat.lt_succ_of_lt hk, hfirst, hsame.trans hcount.symm, hname⟩
  · rw [hsize, ht.count]
    congr 1
    ext e
    rw [List.mem_toFinset, List.mem_toFinset, hmem]
  · rw [hsize, ← ht.ids]
    unfold held
    rw [takenAway_succ, hf, hp]
    simp

/-- A flush begins a new interval, and its job takes over all requests. -/
theorem Tally.flush (ht : h.Tally i) (hf : h.flushes i = true) (hs : h.hearing? i = none)
    (hp : (h.after (i + 1)).pending = .empty)
    (hfetches : (h.after (i + 1)).fetches = (h.after i).fetches) : h.Tally (i + 1) := by
  have hcount : h.flushCount (i + 1) = h.flushCount i + 1 := by
    rw [flushCount_succ, hf, Bool.toNat_true]
  have hheard : h.heard (i + 1) = h.heard i := by
    rw [heard_succ, hs, Option.toList_none, List.append_nil]
  constructor
  · rw [hp]
    exact List.nodup_nil
  · intro user
    -- the interval has just begun
    have hnone : (user, h.flushCount i + 1) ∉ h.heard i := fun hm =>
      absurd (le_of_mem_heard hm) (Nat.not_succ_le_self _)
    rw [hp, hheard, hcount]
    exact iff_of_false nofun hnone
  · intro user request hr
    rw [hp] at hr
    cases hr
  · rw [hfetches, hheard]
    exact ht.count
  · -- the requests go from the last holder to the one before, in their order
    rw [hfetches, ← ht.ids]
    unfold held
    rw [takenAway_succ, hf, hp, if_pos rfl]
    simp only [List.map_append, Holder.fetches_holding]
    exact List.append_nil _

/-- The first speech of a user in an interval starts a fetch. -/
theorem Tally.first {now : Instant} (ht : h.Tally i)
    (hm : h.steps[i]? = some (.speech user now)) (hnew : (h.after i).pending.has user = false)
    (hp : (h.after (i + 1)).pending = (h.after i).pending.put user
      ⟨h.nameAt i user, (h.after i).fetches.states.size⟩)
    (hsize : (h.after (i + 1)).fetches.states.size = (h.after i).fetches.states.size + 1) :
    h.Tally (i + 1) := by
  have hf : h.flushes i = false := flushes_eq hm
  have hcount := flushCount_stay hf
  have hheard : h.heard (i + 1) = h.heard i ++ [(user, h.flushCount i)] := by
    rw [heard_succ, hearing?_speech hm, Option.toList_some]
  have hnot : (user, h.flushCount i) ∉ h.heard i := fun hmem => by
    rw [← ht.keys user, hnew] at hmem
    cases hmem
  constructor
  · rw [hp]
    exact Table.nodup_keys_put ht.nodup _ _
  · intro user'
    rw [hp, hcount, hheard, Table.has_eq_isSome, Table.get?_put]
    by_cases hu : user = user'
    · subst hu
      simp
    · rw [if_neg (by simpa using hu), ← Table.has_eq_isSome, ht.keys user']
      simp [Ne.symm hu]
  · intro user' request hr
    rw [hp, Table.get?_put] at hr
    by_cases hu : user = user'
    · subst hu
      rw [if_pos (beq_self_eq_true user)] at hr
      obtain rfl := Option.some.inj hr
      exact ⟨i, Nat.lt_succ_self i, ⟨hearing?_speech hm, hnot⟩, hcount.symm, rfl⟩
    · rw [if_neg (by simpa using hu)] at hr
      obtain ⟨k, hk, hfirst, hsame, hname⟩ := ht.named user' request hr
      exact ⟨k, Nat.lt_succ_of_lt hk, hfirst, hsame.trans hcount.symm, hname⟩
  · rw [hsize, hheard, ht.count, List.toFinset_append, List.toFinset_cons, List.toFinset_nil,
      Finset.union_insert, Finset.union_empty,
      Finset.card_insert_of_notMem (by rwa [List.mem_toFinset])]
  · -- the new request comes last, and its fetch has the next number
    have hentries : Holder.detector.holding (h.after (i + 1)).pending =
        Holder.detector.holding (h.after i).pending ++
          [((.detector, user), ⟨h.nameAt i user, (h.after i).fetches.states.size⟩)] := by
      unfold Holder.holding
      rw [hp, Table.put_of_new hnew, List.map_append]
      rfl
    unfold held
    rw [takenAway_succ, hf, hentries, hsize, List.range_succ, ← ht.ids]
    simp [held]

/-- The tally is kept by every step. -/
theorem tally (h : History) (i : Nat) : h.Tally i := by
  refine h.keeps_from (P := h.Tally) (i := 0) ?_ ?_ ?_ (Nat.zero_le i)
  · exact ⟨List.nodup_nil, fun _ => iff_of_false nofun List.not_mem_nil, nofun, rfl, rfl⟩
  · intro i m _ hm ht
    -- only speech adds to what was heard, and the other kinds of step are told apart by what they
    -- do to the requests
    by_cases hspeech : ∃ user now, m = .speech user now
    · obtain ⟨user, now, rfl⟩ := hspeech
      rcases (h.after i).reportSpeech_cases user now with ⟨hhas, hp, hf⟩ | ⟨hnew, hp, hf⟩
      · -- there is a request, so the user was heard before in this interval
        refine ht.stay (flushes_eq hm) ?_ (after_succ hm ▸ hp) ?_
        · rw [hearing?_speech hm]
          rintro e ⟨⟩
          exact (ht.keys user).1 hhas
        · rw [after_succ hm]
          exact congrArg (·.states.size) hf
      · rw [UserDirectory.name_markSpeaking, name_after] at hp
        refine ht.first hm hnew (after_succ hm ▸ hp) ?_
        rw [after_succ hm]
        exact (congrArg (·.states.size) hf).trans (numbered_after h i).size_launch
    · have hnone : h.hearing? i = none := hearing?_eq_none fun user now he =>
        hspeech ⟨user, now, Option.some.inj (hm.symm.trans he)⟩
      have hheard : ∀ e ∈ h.hearing? i, e ∈ h.heard i := by
        rw [hnone]
        nofun
      cases requests_at hm with
      | taken hf hp hfetches => exact ht.flush ((flushes_eq hm).trans hf) hnone hp hfetches
      | @started user now _ he => exact absurd ⟨user, now, he⟩ hspeech
      | promoted hf hp hprom =>
        exact ht.stay ((flushes_eq hm).trans hf) hheard hp ((numbered_after h i).size_promote hprom)
      | settled hf hp hs hset =>
        exact ht.stay ((flushes_eq hm).trans hf) hheard hp (hset ▸ Fetches.size_settle hs _)
      | none hf hp hfetches =>
        exact ht.stay ((flushes_eq hm).trans hf) hheard hp (by rw [hfetches])
  · intro i hm ht
    have hafter := after_succ_of_none hm
    refine ht.stay (by simp [flushes, hm]) ?_ (by rw [hafter]) (by rw [hafter])
    rw [hearing?_eq_none fun user now he => by rw [hm] at he; cases he]
    nofun

/-- What was taken away is what the jobs of past flushes hold. -/
theorem mem_takenAway {holder : Holder} : ((holder, user), request) ∈ h.takenAway i ↔
    ∃ k, holder = .job k ∧ h.Holds i holder user request := by
  unfold takenAway
  rw [List.mem_flatMap]
  constructor
  · rintro ⟨k, hk, hm⟩
    obtain ⟨hlt, hf⟩ := List.mem_filter.1 hk
    obtain ⟨rfl, hr⟩ := (Holder.mem_holding (h.tally k).nodup).1 hm
    exact ⟨k, rfl, List.mem_range.1 hlt, flushes_iff.1 hf, hr⟩
  · rintro ⟨k, rfl, hlt, hf, hm⟩
    exact ⟨k, List.mem_filter.2 ⟨List.mem_range.2 hlt, flushes_iff.2 hf⟩,
      (Holder.mem_holding (h.tally k).nodup).2 ⟨rfl, hm⟩⟩

/-- The list of everything that is held agrees with `Holds`. -/
theorem mem_held {holder : Holder} :
    ((holder, user), request) ∈ h.held i ↔ h.Holds i holder user request := by
  unfold held
  rw [List.mem_append, mem_takenAway, Holder.mem_holding (h.tally i).nodup]
  cases holder with
  | detector => simp [Holds]
  | job k => simp

/-- The places with the backend are never overrun: a fetch is started as waiting, and it goes out
only where a place is free. -/
theorem within_after (h : History) (i : Nat) :
    (h.after i).fetches.Within (max 1 h.options.maxFetches) := by
  refine h.keeps (P := fun r => r.fetches.Within (max 1 h.options.maxFetches)) (i := 0)
    (Fetches.Within.start _) ?_ (Nat.zero_le i)
  intro i m _ hm hw
  cases requests_at hm with
  | taken _ _ hf => exact hf ▸ hw
  | started _ _ _ _ hf => exact hf ▸ hw.launch
  | promoted _ _ hf => exact hw.promote (numbered_after h i) hf
  | settled _ _ _ hf => exact hf ▸ hw.settle _ _
  | none _ _ hf => exact hf ▸ hw

/-- The account of tick fetches after the first `i` steps of a history. -/
structure FetchesTallied (h : History) (i : Nat) : Prop where
  /-- The detector holds one request for every user heard since the last flush, and no other. -/
  nodup : (h.after i).pending.keys.Nodup
  keys : ∀ user, user ∈ (h.after i).pending.keys ↔ (user, h.flushCount i) ∈ h.heard i
  /-- It has the name that the user had when they were first heard since, and the fetch that was
  started then. -/
  named : ∀ user request, (h.after i).pending.get? user = some request →
    ∃ k < i, h.FirstHears k user ∧ h.flushCount k = h.flushCount i ∧
      request = ⟨h.nameAt k user, (h.after k).fetches.states.size⟩
  /-- One fetch was started for every user and every interval between flushes in which they were
  heard. -/
  count : (h.after i).fetches.states.size = (h.heard i).toFinset.card
  /-- Every fetch that was started has one holder, and nobody holds any other. -/
  holder : ∀ id, id ∈ (h.after i).fetches.states.keys ↔
    ∃! e : Holder × UserId, ∃ request, h.Holds i e.1 e.2 request ∧ request.fetch = id
  /-- No more are with the backend than may be. -/
  bounded : (h.after i).fetches.underway.length ≤ max 1 h.options.maxFetches
  /-- An audio frame is speech, or it is nothing. -/
  frames : ∀ user isSpeech now, (h.after i).reportFrame user isSpeech now =
    if isSpeech then (h.after i).move (.speech user now) else h.after i

/-- In every history the tick fetches are accounted for at any time. -/
theorem fetches_tallied (h : History) (i : Nat) : h.FetchesTallied i := by
  have ht := h.tally i
  have hids : ∀ id, id ∈ (h.after i).fetches.states.keys ↔ id ∈ (h.held i).map (·.2.fetch) :=
    fun id => by rw [ht.ids, ← show (h.after i).fetches.states.keys = _ from numbered_after h i]
  have hnodup : ((h.held i).map (·.2.fetch)).Nodup := ht.ids ▸ List.nodup_range
  constructor
  · exact ht.nodup
  · intro user
    rw [Table.mem_keys_iff]
    exact ht.keys user
  · exact ht.named
  · exact ht.count
  · intro id
    rw [hids, List.mem_map]
    constructor
    · rintro ⟨⟨e, request⟩, he, rfl⟩
      refine ⟨e, ⟨request, mem_held.1 he, rfl⟩, ?_⟩
      rintro e' ⟨request', hholds, hsame⟩
      -- two requests for one fetch stand at one place
      have heq := List.inj_on_of_nodup_map hnodup (mem_held.2 hholds) he hsame
      exact congrArg Prod.fst heq
    · rintro ⟨e, ⟨request, hholds, rfl⟩, -⟩
      exact ⟨(e, request), mem_held.2 hholds, rfl⟩
  · exact (h.within_after i).2
  · intro user isSpeech now
    rfl

end History

end PushToTalk
