import PushToTalk.Fetch
import PushToTalk.Proofs.Table

/-
  Fetches under their numbers.

  Whoever begins to speak gets a fetch, and from then on knows it by its number only.  So a number
  must lead to one fetch, and to the same one for good: the fetches are numbered without gaps
  (`Numbered`), a new one gets a number that no other has, and what a fetch was answered stays its
  answer (`Goes`).

  1. **The operations** — starting a fetch, giving it a place and settling it keep the numbers, and
     no answer changes.  That a fetch is given a place only while it waits, and is settled only
     while it is with the backend, is what keeps the answers.

  2. **How many there are** — only a start adds a fetch.

  3. **How many are with the backend** — no more than there are places (`Within`).  A place is given
     only where one is free, and every other new state of a fetch takes none.

  When a fetch is started, and who asks for its answer, is the matter of `Relay.Fetching`.

  Main statements: `Numbered.launch`, `Numbered.promote`, `Numbered.settle` and the lemmas of the
  same names on `Within`.
-/

namespace PushToTalk.Fetches

/-- The fetches are numbered in the order in which they were started. -/
def Numbered (f : Fetches) : Prop := f.states.keys = List.range f.states.size

/-- Whatever was answered in `f` is answered so in `f'`. -/
def Goes (f f' : Fetches) : Prop := ∀ id a, f.answer? id = some a → f'.answer? id = some a

/-- A fetch has an answer if that is its state. -/
theorem answer?_eq_some {f : Fetches} {id : FetchId} {a : Answer} :
    f.answer? id = some a ↔ f.states.get? id = some (.answered a) := by
  unfold answer?
  split <;> simp_all

variable {f : Fetches} {id : FetchId}

/-- No fetches are numbered. -/
theorem Numbered.start (limit : Nat) : (Fetches.start limit).Numbered := rfl

/-- No two fetches share a number. -/
theorem Numbered.nodup (h : f.Numbered) : f.states.keys.Nodup := by
  rw [show f.states.keys = _ from h]
  exact List.nodup_range

/-- A number that was given out is smaller than the next. -/
theorem Numbered.lt_size (h : f.Numbered) {state : FetchState}
    (hs : f.states.get? id = some state) : id < f.states.size := by
  have hm : id ∈ f.states.keys :=
    List.mem_map_of_mem (f := (·.1)) ((Table.mem_entries_iff h.nodup).2 hs)
  rw [show f.states.keys = _ from h] at hm
  exact List.mem_range.1 hm

/-- The next number is nobody's yet. -/
theorem Numbered.get?_size (h : f.Numbered) : f.states.get? f.states.size = none := by
  cases hs : f.states.get? f.states.size with
  | none => rfl
  | some state => exact absurd (h.lt_size hs) (Nat.lt_irrefl _)

/-- A new state of a fetch that there is leaves the numbers as they are. -/
theorem Numbered.put (h : f.Numbered) {state : FetchState} (hs : f.states.get? id = some state)
    (state' : FetchState) : ({ f with states := f.states.put id state' } : Fetches).Numbered := by
  have hm : id ∈ f.states.entries.map (·.1) :=
    List.mem_map_of_mem (f := (·.1)) ((Table.mem_entries_iff h.nodup).2 hs)
  rcases Table.keys_putIn id state' f.states.entries with he | ⟨-, hnot⟩
  · have hkeys : (f.states.put id state').keys = f.states.keys := he
    have hsize : (f.states.put id state').size = f.states.size := by
      have hl := congrArg List.length he
      rwa [List.length_map, List.length_map] at hl
    show (f.states.put id state').keys = List.range (f.states.put id state').size
    rw [hkeys, hsize]
    exact h
  · exact absurd hm hnot

/-- A new state of a fetch that has no answer yet changes no answer. -/
theorem goes_put {state' : FetchState} (hs : ∀ a, f.states.get? id ≠ some (.answered a)) :
    f.Goes { f with states := f.states.put id state' } := by
  intro id' a ha
  rw [answer?_eq_some] at ha ⊢
  show (f.states.put id state').get? id' = _
  rw [Table.get?_put, if_neg]
  · exact ha
  · intro he
    obtain rfl : id = id' := by simpa using he
    exact hs a ha

/-! ## The operations -/

/-- A new fetch comes last. -/
theorem Numbered.entries_launch (h : f.Numbered) :
    f.launch.1.states.entries = f.states.entries ++ [(f.states.size, .waiting)] := by
  refine Table.put_of_new ?_ FetchState.waiting
  rw [Table.has_eq_isSome, h.get?_size]
  rfl

/-- A new fetch gets the next number and changes no answer. -/
theorem Numbered.launch (h : f.Numbered) : f.launch.1.Numbered ∧ f.Goes f.launch.1 := by
  have hentries := h.entries_launch
  constructor
  · show f.launch.1.states.entries.map (·.1) = List.range f.launch.1.states.entries.length
    rw [hentries, List.map_append, List.length_append, List.length_singleton, List.range_succ,
      show f.states.entries.map (·.1) = _ from h]
    rfl
  · -- the new number had no state before, so no answer either
    exact goes_put fun a ha => by
      rw [h.get?_size] at ha
      cases ha

/-- Whoever takes a place has waited for it, and there was one. -/
theorem Numbered.promote_eq_some (h : f.Numbered) {f' : Fetches}
    (hp : f.promote = some (f', id)) : f.states.get? id = some .waiting ∧
      f.underway.length < f.places ∧ f' = { f with states := f.states.put id .underway } := by
  unfold Fetches.promote at hp
  split at hp
  · next hfree =>
    split at hp
    · next first later hw =>
      have hfirst : first ∈ f.waiting := by
        rw [hw]
        exact List.mem_cons_self
      obtain ⟨e, he, rfl⟩ := List.mem_map.1 hfirst
      obtain ⟨hmem, hwait⟩ := List.mem_filter.1 he
      have hstate : f.states.get? e.1 = some .waiting := by
        rw [← Table.mem_entries_iff h.nodup]
        rw [← show e.2 = FetchState.waiting by simpa using hwait]
        exact hmem
      cases hp
      exact ⟨hstate, hfree, rfl⟩
    · cases hp
  · cases hp

/-- A fetch that takes a place changes no number and no answer. -/
theorem Numbered.promote (h : f.Numbered) {f' : Fetches} (hp : f.promote = some (f', id)) :
    f'.Numbered ∧ f.Goes f' := by
  obtain ⟨hstate, -, rfl⟩ := h.promote_eq_some hp
  exact ⟨h.put hstate _, goes_put fun a ha => by rw [hstate] at ha; cases ha⟩

/-- A fetch that is settled changes no number, and no answer but its own. -/
theorem Numbered.settle (h : f.Numbered) (hs : f.states.get? id = some .underway)
    (answer : Answer) : (f.settle id answer).Numbered ∧ f.Goes (f.settle id answer) :=
  ⟨h.put hs _, goes_put fun a ha => by rw [hs] at ha; cases ha⟩

/-! ## How many there are -/

/-- A start adds one fetch. -/
theorem Numbered.size_launch (h : f.Numbered) : f.launch.1.states.size = f.states.size + 1 := by
  show f.launch.1.states.entries.length = _
  rw [h.entries_launch, List.length_append]
  rfl

/-- Giving a fetch its place adds no fetch. -/
theorem Numbered.size_promote (h : f.Numbered) {f' : Fetches} (hp : f.promote = some (f', id)) :
    f'.states.size = f.states.size := by
  obtain ⟨hstate, -, rfl⟩ := h.promote_eq_some hp
  exact Table.size_put_of_some hstate _

/-- Settling a fetch adds no fetch. -/
theorem size_settle (hs : f.states.get? id = some .underway) (answer : Answer) :
    (f.settle id answer).states.size = f.states.size := Table.size_put_of_some hs _

/-! ## How many are with the backend -/

/-- Of `n` places no more than there are have been taken. -/
def Within (f : Fetches) (n : Nat) : Prop := f.places = n ∧ f.underway.length ≤ n

/-- The fetches with the backend, counted by their states. -/
theorem underway_length (f : Fetches) :
    f.underway.length = f.states.entries.countP fun e => e.2 == .underway := by
  rw [underway, List.length_map, ← List.countP_eq_length_filter]

/-- One more is with the backend at most, and none more unless that is what a fetch turns to. -/
theorem underway_put_le (f : Fetches) (id : FetchId) (state : FetchState) :
    ({ f with states := f.states.put id state } : Fetches).underway.length ≤
      f.underway.length + (state == .underway).toNat := by
  rw [underway_length, underway_length]
  exact Table.countP_putIn_le (· == .underway) id state f.states.entries

variable {n : Nat}

/-- At first no place is taken. A limit of none counts as one. -/
theorem Within.start (limit : Nat) : (Fetches.start limit).Within (max 1 limit) :=
  ⟨rfl, Nat.zero_le _⟩

/-- A new fetch waits, so it takes no place. -/
theorem Within.launch (hw : f.Within n) : f.launch.1.Within n :=
  ⟨hw.1, Nat.le_trans (f.underway_put_le _ .waiting) hw.2⟩

/-- A place is taken only where one is free. -/
theorem Within.promote (hw : f.Within n) (h : f.Numbered) {f' : Fetches}
    (hp : f.promote = some (f', id)) : f'.Within n := by
  obtain ⟨-, hfree, rfl⟩ := h.promote_eq_some hp
  refine ⟨hw.1, Nat.le_trans (f.underway_put_le id .underway) ?_⟩
  rw [← hw.1]
  exact hfree

/-- A fetch that is over takes no place any more. -/
theorem Within.settle (hw : f.Within n) (id : FetchId) (answer : Answer) :
    (f.settle id answer).Within n :=
  ⟨hw.1, Nat.le_trans (f.underway_put_le id (.answered answer)) hw.2⟩

end PushToTalk.Fetches
