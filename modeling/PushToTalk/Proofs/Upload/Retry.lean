import Mathlib.Data.List.DropRight
import PushToTalk.Proofs.Path
import PushToTalk.Proofs.Upload.Course
import PushToTalk.Recorder

/-
  Retries over a whole history of passes.

  Passes follow one another, and the only thing that a pass leaves to the next is the retry cache.
  A recording that was not delivered is tried again in a later pass, and it must then be filed under
  the tick at which it was spoken, not under one that belongs to a later utterance of the user.
  Whatever the passes are given, the cache holds the files whose last try failed, each with the tick
  that was found out at the first of the failures since it was delivered last, and every further try
  files it under that tick.

  The history of the passes is the list of all tries at files.  `held` reads off it what the cache
  should hold; a try changes both in the same way (`Handles.cache` and `held_snoc`).

  1. **Passes one after the other** — `cacheAfter` hands the cache on from pass to pass.

  2. **Histories** — the tries, and what is to be held for a file.  `failures` looks back from the
     end to the last delivery.

  3. **One try**, **one pass**, **all passes** — `Fits` says that the cache is as it should be, and
     is kept at each of the three levels.  In a pass the invariant is the one of the protocol, of
     which only the dealings are used here.

  A pass is complete if every tick comes and every exchange is answered (`Pass.Complete`).  One that
  halts leaves the cache in the middle, which is told elsewhere.

  Main statement: `retries_keep_tick`.
-/

namespace PushToTalk.Upload

variable {τ : Type}

/-! ## Passes one after the other -/

/-- A pass, with all that is not up to it. -/
structure Pass (τ : Type) where
  files : List Path
  folders : List Path
  pending : PendingTicks
  /-- How the tick requests are answered. -/
  answer? : FetchId → Option Answer
  backend : Backend τ
  /-- The backend before the pass. -/
  state : τ
  /-- The station before the pass, but for the retry cache. -/
  station : Station

namespace Pass

/-- The station that a pass finds. -/
def found (p : Pass τ) (cache : RetryCache) : Station := { p.station with cache }

/-- The whole course of a pass. -/
def course (p : Pass τ) (cache : RetryCache) : Course τ :=
  Course.run p.backend p.answer?
    ⟨p.state, p.found cache, Worker.start p.files p.folders p.pending, []⟩

/-- Every tick comes, and the backend answers everything without killing the worker; the cache is
no business of the backend's. -/
structure Complete (p : Pass τ) : Prop where
  ticks : ∀ user request, p.pending.get? user = some request →
    (p.answer? request.fetch).isSome
  answers : ∀ t s request, ∃ t' s' answer, p.backend t s request = some (t', s', answer) ∧
    answer ≠ .death ∧ s'.cache = s.cache

/-- The tick that the requests of a pass give for a user, as far as they give one. -/
def tickOf (p : Pass τ) (user : UserId) : TickData :=
  match p.pending.get? user with
  | some request => ((p.answer? request.fetch).map TickData.ofAnswer).getD .unknown
  | none => .unknown

end Pass

/-- The cache after passes that began with an empty one. -/
def cacheAfter (passes : List (Pass τ)) : RetryCache :=
  passes.foldl (fun cache p => (p.course cache).station.cache) .empty

/-! ## Histories -/

/-- A try at a file. -/
structure Try where
  attempt : Attempt
  /-- The tick that the requests of the pass gave for the user. -/
  live : TickData

/-- The tries at one file; skipping it is none. -/
def tried (file : Path) (tries : List Try) : List Try :=
  tries.filter fun t => t.attempt.file == file && t.attempt.fate ≠ .skipped

/-- The failures of a file since it was last delivered. -/
def failures (file : Path) (tries : List Try) : List Try :=
  (tried file tries).rtakeWhile fun t => t.attempt.fate = .failed

/-- The tick that is to be held for a file: the one that was found out at the first failure. -/
def held (file : Path) (tries : List Try) : Option TickData :=
  (failures file tries).head?.map Try.live

/-- The tries that a pass makes, one for each of its files. -/
structure Pass.Makes (p : Pass τ) (cache : RetryCache) (tries : List Try) : Prop where
  ended : (p.course cache).worker.stage = .ended
  files : p.files = tries.map (·.attempt.file)
  exchanges : (p.course cache).exchanges = tries.flatMap (·.attempt.exchanges)
  report : ∀ fate, (p.course cache).worker.report.of fate = faring fate (tries.map (·.attempt))
  passes : ∃ t s, Passes p.backend p.answer? p.pending p.state (p.found cache)
    (tries.map (·.attempt)) t s
  live : ∀ t ∈ tries, ∀ user, UserId.ofPath t.attempt.file = .ok user → t.live = p.tickOf user

/-- The tries that passes make, beginning with an empty cache. -/
inductive History : List (Pass τ) → List Try → Prop
  | nil : History [] []
  | snoc {passes : List (Pass τ)} {p : Pass τ} {tries made : List Try}
      (h : History passes tries) (hp : p.Makes (cacheAfter passes) made) :
      History (passes ++ [p]) (tries ++ made)

/-- What was said during a try goes by the script that files the recording under the tick. -/
def Attempt.FiledUnder (a : Attempt) (tick : TickData) : Prop :=
  ∃ chunks name topic fileId,
    a.exchanges.map Exchange.request <+: script chunks name topic fileId tick

/-- Every try files its recording under the tick that was held before, else under its own. -/
def KeepsTick (tries : List Try) : Prop :=
  ∀ (n : Nat) (t : Try), tries[n]? = some t → t.attempt.fate ≠ .skipped →
    t.attempt.FiledUnder ((held t.attempt.file (tries.take n)).getD t.live)

section Histories

variable {file : Path} {tries : List Try} {t : Try}

/-- A try at another file is none at this one, nor is a skip. -/
theorem tried_snoc (file : Path) (tries : List Try) (t : Try) :
    tried file (tries ++ [t]) =
      if (t.attempt.file == file && t.attempt.fate ≠ .skipped) = true then tried file tries ++ [t]
      else tried file tries := by
  unfold tried
  rw [List.filter_append, List.filter_cons, List.filter_nil]
  split <;> simp

/-- A try changes what is to be held for its own file and nothing else: a failure adds the tick
that was found out, or leaves the one that is held already; a delivery ends the holding. -/
theorem held_snoc (file : Path) (tries : List Try) (t : Try) :
    held file (tries ++ [t]) =
      if (t.attempt.file == file && t.attempt.fate ≠ .skipped) = true then
        if t.attempt.fate = .failed then some ((held file tries).getD t.live) else none
      else held file tries := by
  unfold held failures
  rw [tried_snoc]
  split
  · -- looking back from the end, the last try comes first
    rw [List.rtakeWhile_concat]
    split
    · next hf =>
      rw [if_pos (of_decide_eq_true hf)]
      cases (tried file tries).rtakeWhile fun t => t.attempt.fate = .failed <;> rfl
    · next hf =>
      rw [if_neg (by simpa using hf)]
      rfl
  · rfl

/-- A tick is held exactly for the files whose last try failed. -/
theorem held_isSome (file : Path) (tries : List Try) :
    (held file tries).isSome ↔
      (tried file tries).getLast?.map (·.attempt.fate) = some .failed := by
  unfold held failures
  induction tried file tries using List.reverseRecOn with
  | nil => simp
  -- there are failures to look back on exactly if the last try is one
  | append_singleton ts t =>
    rw [List.rtakeWhile_concat, List.getLast?_concat, Option.map_some, Option.some_inj]
    by_cases hf : t.attempt.fate = .failed <;> simp [hf]

/-- One try more keeps to it, if it is filed under what was held before it. -/
theorem KeepsTick.snoc (h : KeepsTick tries) (ht : t.attempt.fate ≠ .skipped →
    t.attempt.FiledUnder ((held t.attempt.file tries).getD t.live)) :
    KeepsTick (tries ++ [t]) := by
  intro n u hn hu
  rcases Nat.lt_trichotomy n tries.length with hl | rfl | hl
  · rw [List.getElem?_append_left hl] at hn
    rw [List.take_append_of_le_length hl.le]
    exact h n u hn hu
  · obtain rfl : t = u := by simpa using hn
    rw [List.take_left]
    exact ht hu
  · rw [List.getElem?_eq_none (by rw [List.length_append, List.length_singleton]; omega)] at hn
    cases hn

end Histories

/-! ## One try -/

section Trying

variable {p : Pass τ} {t t' : τ} {s s' : Station} {file : Path}

/-- Deleting a file is no business of the retry cache's. -/
@[simp] theorem cache_delete (s : Station) (file : Path) : (s.delete file).cache = s.cache := by
  unfold Station.delete
  split <;> rfl

/-- Being done with folders is no business of the retry cache's. -/
@[simp] theorem cache_finish (s : Station) (folders : List Path) :
    (s.finish folders).cache = s.cache := rfl

/-- Whatever the backend does while it answers is no business of the retry cache's. -/
theorem Pass.Complete.talks (complete : p.Complete) {xs : List Exchange}
    (h : Talks p.backend t s xs t' s') : s'.cache = s.cache := by
  induction h with
  | nil => rfl
  | @snoc xs x t₁ t₂ s₁ s₂ h hx ih =>
    obtain ⟨_, _, _, hb, -, hcache⟩ := complete.answers t₁ s₁ x.request
    rw [hx] at hb
    obtain ⟨rfl, rfl, rfl⟩ : t₂ = _ ∧ s₂ = _ ∧ x.answer = _ := by simpa using hb
    rw [hcache, ih]

/-- In a complete pass a tick is always found out: the one that is held comes first. -/
theorem Pass.Complete.tickFor (complete : p.Complete) (s : Station) (file : Path)
    (user : UserId) :
    tickFor p.answer? p.pending s file user =
      some ((s.cache.get? file).getD (p.tickOf user)) := by
  unfold Upload.tickFor tickOf
  cases s.cache.get? file with
  | some tick => rfl
  | none =>
    cases hp : p.pending.get? user with
    | none => rfl
    | some request =>
      obtain ⟨answer, ha⟩ := Option.isSome_iff_exists.1 (complete.ticks user request hp)
      simp [ha]

/-- A file about which something was said was not skipped. -/
theorem fateOf_ne_skipped (count : Nat) (xs : List Exchange) :
    fateOf count xs ≠ some .skipped := by
  unfold fateOf
  split
  · simp
  · split
    · split <;> simp
    · split
      · split <;> simp
      · simp
  · simp
  · simp

/-- A failure puts the tick into the cache, a delivery takes the entry of the file out. -/
theorem Fate.cache_leaves {fate : Fate} (hf : fate ≠ .skipped) (s : Station) (file file' : Path)
    (tick : TickData) : (fate.leaves s file tick).cache.get? file' =
      if file == file' then if fate = .failed then some tick else none
      else s.cache.get? file' := by
  cases fate with
  | skipped => exact absurd rfl hf
  | failed => exact Table.get?_put _ _ _ _
  | uploaded | rejected =>
    rw [Fate.leaves, cache_delete]
    exact Table.get?_erase _ _ _

/-- What a try leaves in the cache. -/
theorem Handles.cache (complete : p.Complete) {a : Attempt}
    (h : Handles p.backend p.answer? p.pending t s a t' s') :
    (a.fate = .skipped ∧ s'.cache = s.cache) ∨
      (a.fate ≠ .skipped ∧ ∃ user, UserId.ofPath a.file = .ok user ∧
        a.FiledUnder ((s.cache.get? a.file).getD (p.tickOf user)) ∧
        ∀ file, s'.cache.get? file =
          if a.file == file then
            if a.fate = .failed then some ((s.cache.get? a.file).getD (p.tickOf user)) else none
          else s.cache.get? file) := by
  cases h with
  | skipped hu => exact Or.inl ⟨rfl, rfl⟩
  | @unread file user tick why hu ht hr =>
    rw [complete.tickFor] at ht
    obtain rfl := Option.some.inj ht
    exact Or.inr ⟨Fate.noConfusion, user, hu, ⟨[], "", "", "", List.nil_prefix⟩,
      fun file' => Fate.cache_leaves Fate.noConfusion s file file' _⟩
  | @sent file tick chunks xs fate t' s' hsends hf =>
    have hne : fate ≠ .skipped := fun he => fateOf_ne_skipped _ _ (he ▸ hf)
    obtain ⟨user, topic, fileId, hu, ht, hscript, -⟩ := hsends.follows
    rw [complete.tickFor] at ht
    obtain rfl := Option.some.inj ht
    refine Or.inr ⟨hne, user, hu, ⟨chunks, _, topic, fileId, hscript.requests⟩, fun file' => ?_⟩
    rw [Fate.cache_leaves hne, complete.talks hsends.talks]

end Trying

/-! ## One pass -/

section Passing

variable {p : Pass τ} {t t' : τ} {s s' : Station} {attempts : List Attempt}

/-- The tick that the requests of a pass give for a file. -/
def Pass.liveFor (p : Pass τ) (file : Path) : TickData :=
  match UserId.ofPath file with
  | .ok user => p.tickOf user
  | .error _ => .unknown

/-- A try in a pass. -/
def Pass.tryAt (p : Pass τ) (a : Attempt) : Try := ⟨a, p.liveFor a.file⟩

/-- The cache is as it should be after the tries. -/
def Fits (cache : RetryCache) (tries : List Try) : Prop :=
  ∀ file, cache.get? file = held file tries

/-- The tries of a pass keep the cache as it should be, and each files its recording under the
right tick. -/
theorem Passes.keepsTick (complete : p.Complete)
    (h : Passes p.backend p.answer? p.pending t s attempts t' s') {tries : List Try}
    (fits : Fits s.cache tries) (keeps : KeepsTick tries) :
    Fits s'.cache (tries ++ attempts.map p.tryAt) ∧ KeepsTick (tries ++ attempts.map p.tryAt) := by
  induction h with
  | nil => simpa using ⟨fits, keeps⟩
  | @snoc attempts a t₁ t₂ s₁ s₂ h ha ih =>
    obtain ⟨fits, keeps⟩ := ih
    rw [List.map_append, ← List.append_assoc]
    rcases ha.cache complete with ⟨hs, hcache⟩ | ⟨hs, user, hu, hfiled, hcache⟩
    · refine ⟨fun file => ?_, keeps.snoc fun hne => absurd hs hne⟩
      rw [hcache, fits file, List.map_singleton, held_snoc]
      simp [Pass.tryAt, hs]
    · have hlive : p.tickOf user = (p.tryAt a).live := by simp [Pass.tryAt, Pass.liveFor, hu]
      rw [fits a.file, hlive] at hfiled
      refine ⟨fun file => ?_, keeps.snoc fun _ => hfiled⟩
      rw [hcache file, List.map_singleton, held_snoc, hlive]
      cases he : a.file == file with
      | false => simp [Pass.tryAt, he, fits file]
      | true =>
        rw [Table.get?_congr _ he, fits file]
        by_cases hf : a.fate = .failed <;> simp [Pass.tryAt, he, hs, hf]

/-- No end of an exchange is the end of the worker. -/
theorem Worker.Receives.ne_ended {w w' : Worker} {answer : Answer}
    (h : Worker.Receives s w answer s' w') : w'.stage ≠ .ended := by
  cases h with
  | created | sent =>
    unfold sendFrom
    dsimp only
    split <;> exact Stage.noConfusion
  | verdict | died => exact Stage.noConfusion
  | unnamed | broken => simp

/-- A pass that is at its end does nothing more. -/
theorem Course.run_ended {backend : Backend τ} {answer? : FetchId → Option Answer}
    {c : Course τ} (h : c.worker.stage = .ended) : c.run backend answer? = c := by
  have ha : Worker.advance answer? c.station c.worker = none := by simp [Worker.advance, h]
  rw [Course.run]
  split
  · next hs =>
    rw [ha] at hs
    cases hs
  · split
    · rfl
    · next hq =>
      rw [h] at hq
      cases hq

/-- A pass that ends has handled all its files, and then is done with the folders in its report. -/
theorem Stands.finishes {backend : Backend τ} {answer? : FetchId → Option Answer}
    {pending : PendingTicks} {files rest : List Path} {t₀ : τ} {s₀ : Station}
    {xs : List Exchange} {c : Course τ}
    (h : Stands backend answer? pending files t₀ s₀ attempts rest xs c)
    (going : c.worker.stage ≠ .ended) (hend : (c.run backend answer?).worker.stage = .ended) :
    ∃ attempts t s, Passes backend answer? pending t₀ s₀ attempts t s ∧
      files = attempts.map (·.file) ∧
      (c.run backend answer?).exchanges = attempts.flatMap (·.exchanges) ∧
      (∀ fate, (c.run backend answer?).worker.report.of fate = faring fate attempts) ∧
      (c.run backend answer?).station = s.finish (c.run backend answer?).worker.report.folders := by
  fun_induction Course.run backend answer? c generalizing attempts rest xs with
  | case1 c s w ha ih =>
    have hadv := Worker.advances_of_advance ha
    -- the step into the end is the one that is done with the folders
    by_cases hw : w.stage = .ended
    · obtain ⟨hidle, htodo, rfl, rfl⟩ := hadv.of_ended hw
      obtain ⟨hfiles, hx, hreport, -, t₁, s₁, hp, hb⟩ := h
      simp only [Busy, hidle] at hb
      obtain ⟨rfl, rfl, -, rfl⟩ := hb
      rw [Course.run_ended hw]
      refine ⟨attempts, t₁, c.station, hp, by simpa [htodo] using hfiles, by simpa using hx,
        fun fate => ?_, rfl⟩
      rw [← hreport fate]
      cases fate <;> rfl
    · obtain ⟨_, _, _, hnext⟩ := h.advance hadv
      exact ih hnext hw hend
  | case2 c ha hq => exact absurd hend going
  | case3 c ha request hq hb => exact absurd hend going
  | case4 c ha request hq t s answer hb ih =>
    obtain ⟨_, _, _, hnext⟩ := h.receive hq hb
    exact ih hnext (Worker.receives_receive s answer (by rw [hq]; rfl)).ne_ended hend

/-- A complete pass comes to its end. -/
theorem Pass.Complete.ends (complete : p.Complete) (cache : RetryCache) :
    (p.course cache).worker.stage = .ended := by
  obtain ⟨hadvance, hask⟩ : Worker.advance p.answer? (p.course cache).station
      (p.course cache).worker = none ∧ ∀ request,
      (p.course cache).worker.stage.request? = some request →
        p.backend (p.course cache).backend (p.course cache).station request = none :=
    Course.run_stops p.backend p.answer? _
  obtain ⟨attempts, rest, xs, -, -, -, -, t₁, s₁, -, hb⟩ : ∃ attempts rest xs,
      Stands p.backend p.answer? p.pending p.files p.state (p.found cache) attempts rest xs
        (p.course cache) := (stands_start p.state (p.found cache) p.files p.folders).run
  -- there are four reasons not to go on, and three of them a complete pass does not have
  rcases advance_eq_none hadvance with hs | hs | ⟨request, hs⟩ | ⟨file, user, request, hs, hnone⟩
  · exact hs
  · simp only [Busy, hs] at hb
    obtain ⟨file, tick, chunks, -, hsends, hlast⟩ := hb
    obtain ⟨t, s, request, t', s', hdeath⟩ := hsends.talks.last_of_death hlast
    obtain ⟨_, _, answer, hsome, hne, -⟩ := complete.answers t s request
    rw [hdeath] at hsome
    obtain ⟨-, -, rfl⟩ : _ ∧ _ ∧ Answer.death = answer := by simpa using hsome
    exact absurd rfl hne
  · obtain ⟨_, _, _, hsome, -⟩ := complete.answers (p.course cache).backend
      (p.course cache).station request
    rw [hask request hs] at hsome
    cases hsome
  · simp only [Busy, hs] at hb
    obtain ⟨-, -, -, -, -, -, hpend⟩ := hb
    have hsome := complete.ticks user request hpend
    rw [hnone] at hsome
    cases hsome

end Passing

/-- A complete pass makes its tries, and they keep the cache as it should be. -/
theorem Pass.Complete.makes {p : Pass τ} (complete : p.Complete) {cache : RetryCache}
    {tries : List Try} (fits : Fits cache tries) (keeps : KeepsTick tries) :
    ∃ made, p.Makes cache made ∧ Fits (p.course cache).station.cache (tries ++ made) ∧
      KeepsTick (tries ++ made) := by
  have hends := complete.ends cache
  obtain ⟨attempts, t, s, hpasses, hfiles, hexchanges, hreport, hfinish⟩ :=
    (stands_start p.state (p.found cache) p.files p.folders).finishes Stage.noConfusion hends
  have hattempts : (attempts.map p.tryAt).map (·.attempt) = attempts := by
    simp [Function.comp_def, Pass.tryAt]
  have makes : p.Makes cache (attempts.map p.tryAt) := by
    constructor
    · exact hends
    · rw [hfiles, List.map_map]
      rfl
    · rw [List.flatMap_map]
      exact hexchanges
    · rw [hattempts]
      exact hreport
    · rw [hattempts]
      exact ⟨t, s, hpasses⟩
    · intro u hu user huser
      obtain ⟨a, -, rfl⟩ := List.mem_map.1 hu
      have huser : UserId.ofPath a.file = .ok user := huser
      show p.liveFor a.file = p.tickOf user
      simp [Pass.liveFor, huser]
  obtain ⟨hfits, hkeeps⟩ := hpasses.keepsTick complete fits keeps
  -- what is done to the folders in the end is nothing to the cache
  have hleft : (p.course cache).station.cache = s.cache :=
    (congrArg Station.cache hfinish).trans (cache_finish _ _)
  rw [← hleft] at hfits
  exact ⟨attempts.map p.tryAt, makes, hfits, hkeeps⟩

/-! ## All passes -/

/-- The last pass finds what the others have left. -/
theorem cacheAfter_snoc (passes : List (Pass τ)) (p : Pass τ) :
    cacheAfter (passes ++ [p]) = (p.course (cacheAfter passes)).station.cache := by
  simp [cacheAfter]

/-- Complete passes make tries that the cache fits in the end. -/
theorem history_of_complete (passes : List (Pass τ)) (complete : ∀ p ∈ passes, p.Complete) :
    ∃ tries, History passes tries ∧ Fits (cacheAfter passes) tries ∧ KeepsTick tries := by
  induction passes using List.reverseRecOn with
  | nil => exact ⟨[], .nil, fun file => rfl, fun n t hn => by simp at hn⟩
  | append_singleton passes p ih =>
    obtain ⟨tries, hist, fits, keeps⟩ := ih fun q hq => complete q (List.mem_append_left _ hq)
    have hp : p.Complete := complete p (List.mem_append_right _ (List.mem_singleton_self p))
    obtain ⟨made, makes, hfits, hkeeps⟩ := hp.makes fits keeps
    rw [← cacheAfter_snoc] at hfits
    exact ⟨tries ++ made, .snoc hist makes, hfits, hkeeps⟩

/-- After any passes the cache holds exactly the files whose last try failed, each with the tick
that was found out at the first failure since its last delivery; and every try on the way files
its recording under the tick that was held before it, if one was, whatever tick the requests of
its own pass gave. -/
theorem retries_keep_tick (passes : List (Pass τ)) (complete : ∀ p ∈ passes, p.Complete) :
    ∃ tries, History passes tries ∧
      (∀ file, ((cacheAfter passes).get? file).isSome ↔
        (tried file tries).getLast?.map (·.attempt.fate) = some .failed) ∧
      (∀ file, (cacheAfter passes).get? file = held file tries) ∧
      KeepsTick tries := by
  obtain ⟨tries, hist, fits, keeps⟩ := history_of_complete passes complete
  refine ⟨tries, hist, fun file => ?_, fits, keeps⟩
  rw [fits file]
  exact held_isSome file tries

/-- A pass at one recording, where the tick comes as `tick` and every exchange ends alike. -/
def samplePass (tick : String) (answer : Answer) : Pass Unit where
  files := [⟨["rec", "voice0", "7-a.wav"]⟩]
  folders := [⟨["rec", "voice0"]⟩]
  pending := Table.empty.put 7 ⟨"Ann", 0⟩
  answer? _ := some (.body tick)
  backend t s _ := some (t, s, answer)
  state := ()
  station := { Station.start .standard with
    disk := Recorder.onDisk ⟨["7-a.wav"], true⟩ .blank (.start ⟨["rec", "voice0"]⟩) }

/-- In the sample the tick comes, and the backend answers. -/
theorem samplePass_complete (tick : String) {answer : Answer} (h : answer ≠ .death) :
    (samplePass tick answer).Complete where
  ticks _ _ _ := rfl
  answers t s _ := ⟨t, s, answer, rfl, h, rfl⟩

/-- The backend is away and comes back with another tick. -/
def samplePasses : List (Pass Unit) :=
  [samplePass "\x7b\"tickId\":5,\"elapsed\":6\x7d" (.fault (.connect "localhost:8080")),
    samplePass "\x7b\"tickId\":8,\"elapsed\":9\x7d" (.body "\x7b\"fileId\":\"x\"\x7d")]

/-- The sample passes are complete, so the second files the recording under the first tick. -/
theorem retries_keep_tick_sample : (∀ p ∈ samplePasses, p.Complete) ∧
    ∃ tries, History samplePasses tries ∧
      (∀ file, ((cacheAfter samplePasses).get? file).isSome ↔
        (tried file tries).getLast?.map (·.attempt.fate) = some .failed) ∧
      (∀ file, (cacheAfter samplePasses).get? file = held file tries) ∧
      KeepsTick tries := by
  have complete : ∀ p ∈ samplePasses, p.Complete := by
    intro p hp
    rcases List.mem_pair.1 hp with rfl | rfl
    · exact samplePass_complete _ Answer.noConfusion
    · exact samplePass_complete _ Answer.noConfusion
  exact ⟨complete, retries_keep_tick samplePasses complete⟩

end PushToTalk.Upload
