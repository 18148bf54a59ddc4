import PushToTalk.CommandLine

/-
  Which command lines are accepted, and what they give.

  The reader goes from argument to argument and stores a value one step late: when the next option
  comes, or at the end.  This decides which of two slips on one line is told of, and it makes the
  state of the reader hard to describe.  Looked at as a whole a line is simpler.  An accepted line
  is a row of options, each with its value behind it or behind an equals sign, with two hyphens at
  the end or not (`Spells`); no option comes twice, and what comes out is what each option was given
  (`Gathered`).

  1. **Lines** — `Spells` and `Gathered` say this without the reader.  A value that is stored goes
     in front of what is gathered later (`Gathered.cons`).

  2. **Reading** — the induction is on the arguments that are still to be read
     (`Reading.gathered_of_run`).  What has been read and not been stored is put back in front of
     them (`Reading.front`), so that they are again a row of options.  `Reading.step_cases` lists
     all that an argument can be.

  Which of its slips a refused line is told of is not said here.

  Main statement: `given_of_read`.
-/

namespace PushToTalk.CommandLine

/-! ## Lines -/

/-- An argument that can only be a value: it has no hyphen in front, or is one. -/
def IsValue (argument : String) : Prop := ∀ c rest, argument.toList ≠ '-' :: c :: rest

/-- The arguments that spell options with their values. -/
inductive Spells : List (Key × String) → List String → Prop
  | nil : Spells [] []
  /-- Two hyphens, behind which nothing stands. -/
  | closed : Spells [] ["--"]
  /-- The value follows its option. -/
  | apart {key : Key} {value : String} {given : List (Key × String)} {rest : List String}
      (hv : IsValue value) (h : Spells given rest) :
      Spells ((key, value) :: given) (("--" ++ key.name) :: value :: rest)
  /-- The value stands behind an equals sign. -/
  | joined {key : Key} {value : String} {given : List (Key × String)} {rest : List String}
      (h : Spells given rest) :
      Spells ((key, value) :: given) (("--" ++ key.name ++ "=" ++ value) :: rest)

/-- What options with their values make of a reading: no option comes twice, a port is a number,
and each value is found under its option. -/
structure Gathered (r : Reading) (given : List (Key × String)) (a : Arguments) : Prop where
  distinct : (r.stored ++ given.map (·.1)).Nodup
  config : a.config = (given.lookup .config).or r.arguments.config
  host : a.host = (given.lookup .host).or r.arguments.host
  port : a.port =
    ((given.lookup .port).bind fun text => (readPort text).toOption).or r.arguments.port
  topic : a.topic = (given.lookup .topic).or r.arguments.topic
  isPort : ∀ text, given.lookup .port = some text → ∃ n, readPort text = .ok n

variable {r r' : Reading} {key : Key} {value : String} {given : List (Key × String)}
  {a : Arguments} {arguments : List String}

/-- Without options nothing changes. -/
theorem gathered_nil (h : r.stored.Nodup) : Gathered r [] r.arguments where
  distinct := by simpa using h
  config := rfl
  host := rfl
  port := rfl
  topic := rfl
  isPort := fun _ h => absurd h (by simp)

/-- Only what is stored so far matters, and the arguments so far. -/
theorem Gathered.congr (h : Gathered r given a) (hstored : r'.stored = r.stored)
    (harguments : r'.arguments = r.arguments) : Gathered r' given a where
  distinct := hstored ▸ h.distinct
  config := harguments ▸ h.config
  host := harguments ▸ h.host
  port := harguments ▸ h.port
  topic := harguments ▸ h.topic
  isPort := h.isPort

/-- The arguments after a value was stored. -/
def Arguments.Stored (a : Arguments) (value : String) : Key → Arguments → Prop
  | .config, a' => a' = { a with config := some value }
  | .host, a' => a' = { a with host := some value }
  | .port, a' => ∃ n, readPort value = .ok n ∧ a' = { a with port := some n }
  | .topic, a' => a' = { a with topic := some value }

/-- A value that is stored is that of a new option, which is from now on stored, and nothing else
about the reading changes. -/
theorem Reading.store_eq_ok (h : r.store key value = .ok r') : key ∉ r.stored ∧
    r'.stored = r.stored ++ [key] ∧ r'.open? = r.open? ∧ r'.closed = r.closed ∧
    r.arguments.Stored value key r'.arguments := by
  unfold Reading.store at h
  split at h
  · cases h
  next hnew =>
  refine ⟨hnew, ?_⟩
  -- only a port can be refused for its text
  cases key with
  | port =>
    dsimp only at h
    split at h
    · next n hn =>
      cases h
      exact ⟨rfl, rfl, rfl, n, hn, rfl⟩
    · cases h
  | config | host | topic =>
    cases h
    exact ⟨rfl, rfl, rfl, rfl⟩

/-- A value that is stored is found under its option, and no later one is. -/
theorem Gathered.cons (hs : r.store key value = .ok r') (h : Gathered r' given a) :
    Gathered r ((key, value) :: given) a := by
  obtain ⟨hnew, hstored, -, -, hargs⟩ := Reading.store_eq_ok hs
  have hdistinct : (r.stored ++ ((key, value) :: given).map (·.1)).Nodup := by
    have hd := h.distinct
    rwa [hstored, List.append_assoc, List.singleton_append] at hd
  -- a later value of the same option would make the options not distinct
  have hlater : given.lookup key = none := by
    rw [List.lookup_eq_none_iff]
    intro e he
    rw [bne_iff_ne]
    rintro rfl
    have hlast := (List.nodup_append.1 hdistinct).2.1
    exact (List.nodup_cons.1 hlast).1 (List.mem_map_of_mem (f := (·.1)) he)
  have hconfig := h.config
  have hhost := h.host
  have hport := h.port
  have htopic := h.topic
  cases key with
  | port =>
    obtain ⟨n, hn, hargs⟩ := hargs
    rw [hargs] at hconfig hhost hport htopic
    refine ⟨hdistinct, hconfig, hhost, ?_, htopic, ?_⟩
    · simpa [hlater, hn, Except.toOption] using hport
    · intro text htext
      obtain rfl : value = text := by simpa using htext
      exact ⟨n, hn⟩
  | config =>
    rw [hargs] at hconfig hhost hport htopic
    exact ⟨hdistinct, by simpa [hlater] using hconfig, hhost, hport, htopic, h.isPort⟩
  | host =>
    rw [hargs] at hconfig hhost hport htopic
    exact ⟨hdistinct, hconfig, by simpa [hlater] using hhost, hport, htopic, h.isPort⟩
  | topic =>
    rw [hargs] at hconfig hhost hport htopic
    exact ⟨hdistinct, hconfig, hhost, hport, by simpa [hlater] using htopic, h.isPort⟩

/-! ## Reading -/

/-- A value that has come and not been stored, as it stood on the line. -/
def Reading.front (r : Reading) : List String :=
  match r.open? with
  | none => []
  | some (key, none) => ["--" ++ key.name]
  | some (key, some value) => ["--" ++ key.name, value]

/-- What waits to be stored is a value. -/
def Reading.AwaitsValue (r : Reading) : Prop :=
  ∀ key value, r.open? = some (key, some value) → IsValue value

/-- The option that is found for a name has that name. -/
theorem Key.name_of_ofName? {name : String} (h : Key.ofName? name = some key) :
    key.name = name := by
  have hfound := List.find?_some h
  simpa using hfound

/-- When what waited is stored, nothing waits. -/
theorem Reading.settle_cases (h : r.settle = .ok r') : r'.open? = none ∧ r'.closed = r.closed ∧
    (r.open? = none ∧ r' = r ∨ ∃ key value, r.open? = some (key, some value) ∧
      { r with open? := none }.store key value = .ok r') := by
  unfold Reading.settle at h
  split at h
  · next hnone =>
    cases h
    exact ⟨hnone, rfl, Or.inl ⟨hnone, rfl⟩⟩
  · cases h
  · next key value hsome =>
    obtain ⟨-, -, hopen, hclosed, -⟩ := store_eq_ok h
    exact ⟨hopen, hclosed, Or.inr ⟨key, value, hsome, h⟩⟩

/-- Storing a value keeps the stored options distinct. -/
theorem Reading.nodup_of_store (h : r.store key value = .ok r') (hnodup : r.stored.Nodup) :
    r'.stored.Nodup := by
  obtain ⟨hnew, hstored, -⟩ := store_eq_ok h
  rw [hstored]
  refine List.nodup_append.2 ⟨hnodup, by simp, ?_⟩
  intro k hk k' hk'
  rw [List.mem_singleton.1 hk']
  rintro rfl
  exact hnew hk

/-- Storing what waited keeps the stored options distinct. -/
theorem Reading.nodup_of_settle (h : r.settle = .ok r') (hnodup : r.stored.Nodup) :
    r'.stored.Nodup := by
  obtain ⟨-, -, ⟨-, rfl⟩ | ⟨key, value, -, hstore⟩⟩ := settle_cases h
  · exact hnodup
  · exact nodup_of_store hstore hnodup

/-- Options that are read after what waited was stored are read behind it. -/
theorem Reading.gathered_behind_front (hw : r.AwaitsValue) (hs : r.settle = .ok r')
    (hspells : Spells given arguments) (hg : Gathered r' given a) :
    ∃ given', Spells given' (r.front ++ arguments) ∧ Gathered r given' a := by
  obtain ⟨-, -, ⟨hnone, rfl⟩ | ⟨key, value, hsome, hstore⟩⟩ := settle_cases hs
  · refine ⟨given, ?_, hg⟩
    rwa [front, hnone]
  · refine ⟨(key, value) :: given, ?_, (hg.cons hstore).congr rfl rfl⟩
    rw [front, hsome]
    exact .apart (hw key value hsome) hspells

/-- Whoever stops at a slip has come through without one. -/
theorem Reading.ok_of_orStop {e : Except Refusal Reading} (h : orStop e = .ok r) : e = .ok r := by
  cases e with
  | error why => cases h
  | ok r' =>
    cases h
    rfl

/-- An option of a long name is read after what waited before it was stored. It waits for its
value, unless the value was given with it, which is stored at once. -/
theorem Reading.readLong_eq_ok {name : String} {value : Option String}
    (h : r.readLong name value = .ok r') : ∃ key r₀, key.name = name ∧ r.settle = .ok r₀ ∧
      match value with
      | none => r' = { r₀ with open? := some (key, none) }
      | some v => { r₀ with open? := none }.store key v = .ok r' := by
  unfold Reading.readLong at h
  split at h
  · next key v hkey =>
    have hstore := ok_of_orStop h
    cases hs : r.settle with
    | error why =>
      rw [hs] at hstore
      cases hstore
    | ok r₀ =>
      rw [hs] at hstore
      exact ⟨key, r₀, Key.name_of_ofName? hkey, rfl, hstore⟩
  · next key hkey =>
    cases hs : r.settle with
    | error why =>
      rw [hs] at h
      cases h
    | ok r₀ =>
      rw [hs] at h
      cases h
      exact ⟨key, r₀, Key.name_of_ofName? hkey, rfl, rfl⟩
  · cases h
  · -- a flag ends the program and is no reading
    next flag _ _ =>
    unfold Reading.endWith at h
    cases hs : r.settle <;> rw [hs] at h <;> cases h
  · unfold Reading.refuseName at h
    dsimp only at h
    split at h <;> cases h

/-- An argument that is read closes the line, opens an option, gives one with its value, or is the
value of the one that is open. -/
theorem Reading.step_cases {argument : String} (h : r.step argument = .ok r') :
    r.closed = false ∧
      (argument = "--" ∧ r' = { r with closed := true } ∨
      (∃ key r₀, argument = "--" ++ key.name ∧ r.settle = .ok r₀ ∧
        r' = { r₀ with open? := some (key, none) }) ∨
      (∃ key value r₀, argument = "--" ++ key.name ++ "=" ++ value ∧ r.settle = .ok r₀ ∧
        { r₀ with open? := none }.store key value = .ok r') ∨
      ∃ key, IsValue argument ∧ r.open? = some (key, none) ∧
        r' = { r with open? := some (key, some argument) }) := by
  unfold Reading.step at h
  split at h
  · cases h
  next hclosed =>
  refine ⟨by simpa using hclosed, ?_⟩
  split at h
  · next hlist =>
    cases h
    exact Or.inl ⟨String.toList_injective hlist, rfl⟩
  · next rest _ hlist =>
    -- a long name ends at the first equals sign, if there is one
    have hname := List.takeWhile_append_dropWhile (p := (· != '=')) (l := rest)
    dsimp only at h
    split at h
    · next hrest =>
      obtain ⟨key, r₀, hkey, hs, hr⟩ := readLong_eq_ok h
      refine Or.inr (Or.inl ⟨key, r₀, ?_, hs, hr⟩)
      rw [hrest, List.append_nil] at hname
      apply String.toList_injective
      simp [hkey, hlist, hname]
    · next mark value hrest =>
      obtain ⟨key, r₀, hkey, hs, hstore⟩ := readLong_eq_ok h
      refine Or.inr (Or.inr (Or.inl ⟨key, _, r₀, ?_, hs, hstore⟩))
      have hmark : mark = '=' := by
        have hhead := List.head?_dropWhile_not (· != '=') rest
        rw [hrest] at hhead
        simpa using hhead
      apply String.toList_injective
      rw [hlist, ← hname, hrest, hmark]
      simp [hkey]
  · -- letters are flags, which end the program, or are not known
    next letter _ _ hlist =>
    unfold Reading.readLetters at h
    split at h
    · unfold Reading.endWith at h
      cases hs : r.settle <;> rw [hs] at h <;> cases h
    · cases h
  · next hvalue =>
    unfold Reading.readValue at h
    split at h
    · next key hopen =>
      cases h
      exact Or.inr (Or.inr (Or.inr ⟨key, hvalue, hopen, rfl⟩))
    · cases h

/-- By induction on the arguments that are left: together with what waits to be stored they spell
options, and what those give is what comes out. -/
theorem Reading.gathered_of_run (hw : r.AwaitsValue) (hnodup : r.stored.Nodup)
    (h : (arguments.foldlM step r).bind (fun r => orStop r.settle) = .ok r') :
    (r.closed = false → ∃ given, Spells given (r.front ++ arguments) ∧
        Gathered r given r'.arguments) ∧
      (r.closed = true → ∃ given, Spells given (r.front ++ "--" :: arguments) ∧
        Gathered r given r'.arguments) := by
  induction arguments generalizing r with
  | nil =>
    have hs : r.settle = .ok r' := ok_of_orStop h
    have hdone := gathered_nil (nodup_of_settle hs hnodup)
    exact ⟨fun _ => gathered_behind_front hw hs .nil hdone,
      fun _ => gathered_behind_front hw hs .closed hdone⟩
  | cons argument rest ih =>
    rw [List.foldlM_cons] at h
    cases hstep : r.step argument with
    | error why =>
      rw [hstep] at h
      cases h
    | ok r₁ =>
      rw [hstep] at h
      replace h : (rest.foldlM step r₁).bind (fun r => orStop r.settle) = .ok r' := h
      obtain ⟨hclosed, hcases⟩ := step_cases hstep
      refine ⟨fun _ => ?_, fun hc => absurd hc (by simp [hclosed])⟩
      rcases hcases with ⟨rfl, rfl⟩ | ⟨key, r₀, rfl, hs, rfl⟩ | ⟨key, value, r₀, rfl, hs, hstore⟩ |
        ⟨key, hvalue, hopen, rfl⟩
      · obtain ⟨given, hspells, hg⟩ := (ih (r := { r with closed := true }) hw hnodup h).2 rfl
        exact ⟨given, hspells, hg.congr rfl rfl⟩
      · -- the option that is opened comes behind what waited before it
        have hwaits : ({ r₀ with open? := some (key, none) } : Reading).AwaitsValue := by
          intro key' value' hsome
          cases hsome
        have hnodup₀ := nodup_of_settle hs hnodup
        obtain ⟨-, hsame, -⟩ := settle_cases hs
        obtain ⟨given, hspells, hg⟩ := (ih hwaits hnodup₀ h).1 (hsame.trans hclosed)
        exact gathered_behind_front hw hs hspells (hg.congr rfl rfl)
      · have hnodup₀ := nodup_of_settle hs hnodup
        obtain ⟨-, hsame, -⟩ := settle_cases hs
        obtain ⟨-, -, hopen, hsame', -⟩ := store_eq_ok hstore
        have hwaits : r₁.AwaitsValue := by
          intro key' value' hsome
          rw [hopen] at hsome
          cases hsome
        have hnodup₁ := nodup_of_store hstore hnodup₀
        obtain ⟨given, hspells, hg⟩ :=
          (ih hwaits hnodup₁ h).1 (hsame'.trans (hsame.trans hclosed))
        rw [front, hopen] at hspells
        exact gathered_behind_front hw hs (.joined hspells) ((hg.cons hstore).congr rfl rfl)
      · have hwaits :
            ({ r with open? := some (key, some argument) } : Reading).AwaitsValue := by
          intro key' value' hsome
          cases hsome
          exact hvalue
        obtain ⟨given, hspells, hg⟩ := (ih hwaits hnodup h).1 hclosed
        refine ⟨given, ?_, hg.congr rfl rfl⟩
        rw [front, hopen]
        exact hspells

/-- An accepted command line spells options with their values, no option twice, and each value is
found under its option. -/
theorem given_of_read (h : read arguments = .ok a) :
    ∃ given, Spells given arguments ∧ Gathered .start given a := by
  unfold read at h
  cases hrun : (arguments.foldlM Reading.step .start).bind fun r => Reading.orStop r.settle with
  | error why =>
    rw [hrun] at h
    cases h
  | ok r =>
    rw [hrun] at h
    cases h
    have hwaits : Reading.start.AwaitsValue := by
      intro key value hsome
      cases hsome
    exact (Reading.gathered_of_run hwaits List.nodup_nil hrun).1 rfl

end PushToTalk.CommandLine
