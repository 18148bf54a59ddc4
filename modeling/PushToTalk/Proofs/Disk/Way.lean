import PushToTalk.Proofs.Disk.Walk

/-
  What a walk looks at.

  A path is resolved by a walk: piece by piece, one place below another, with a detour wherever a
  link stands in between.  Whether a session folder is the same directory before and after a change
  of the disk hangs on every entry that the walk comes by, and on nothing else.  So the entries that
  it looks up, one for every name that it comes to, are collected in a list, its way, and all that
  is needed about walks on two disks is said about ways.

  1. **Steps.**  One equation for each thing that can happen at a piece: nothing at a dot, a step
     up, a name that is missing, a name that is entered, a link that is followed or that there are
     too many of.  `walk_induction` puts them in a row, so a proof about walks has these cases, and
     none of them opens the definition of `walk`.
  2. **The way**, with the same equations, and `Above`: a walk that ends well has come down through
     every place above its end, so what holds on the way and above the start holds above the end
     (`above_of_walk`).
  3. **Changes.**  A disk on which nothing has changed on the way of a walk gives the same walk
     (`walk_congr`).  Where the end has been taken away, the walk misses it (`walk_gone`), and where
     other pieces of the way have been taken away, it leads where it led before or breaks off
     (`Leads.cut`).  The crux of all three is the order of the entries in the way: the first one
     that has changed decides, since the walk never gets to the ones behind it.
  4. **Spellings.**  Pieces that lead nowhere, which are empty ones and single dots, add nothing to
     a way, so spellings of one path have the same way and lead to the same directory.  This is
     where the equality of paths, which looks at parts and not at the disk, meets the disk.

  The way follows links to the end, as `follow` does; a walk that stops at a link looks up no more
  than that, so its way is long enough.

  Main statements: `above_of_walk`, `walk_congr`, `walk_gone`, `Leads.cut` and `directoryOf_of_beq`.
-/

namespace PushToTalk.Disk

open PushToTalk.Path (IsPlain)

variable {d d' : Disk} {follow : Bool} {links : Nat} {place u v : Place} {piece : String}
  {pieces rest : List String} {node : Node} {target : Path}

/-! ## The steps of a walk -/

/-- A walk with no pieces left has come to its end, whatever stands there. The end need not
exist. -/
theorem walk_nil (d : Disk) (follow : Bool) (links : Nat) (place : Place) :
    d.walk follow links place [] = .ok place := by rw [walk]

/-- A name that is missing may only be the last one: then the walk ends at the place where the
entry would be, and any pieces behind it are asked of something that is not there. -/
theorem walk_missing (hd : d.at? place = some .directory) (hp : IsPlain piece)
    (hn : d.at? (place ++ [piece]) = none) :
    d.walk follow links place (piece :: rest) =
      if rest.isEmpty then .ok (place ++ [piece]) else .error .notFound := by
  rw [walk_plain hd hp, hn]

/-- What is no link is entered, a file just as well as a directory. That a file has nothing below
it is only noticed at the next piece. -/
theorem walk_enter (hd : d.at? place = some .directory) (hp : IsPlain piece)
    (hn : d.at? (place ++ [piece]) = some node) (hl : ∀ target, node ≠ .link target) :
    d.walk follow links place (piece :: rest) = d.walk follow links (place ++ [piece]) rest := by
  rw [walk_plain hd hp, hn]
  cases node with
  | link target => exact absurd rfl (hl target)
  | directory | file => rfl

/-- A link at the very end is an end itself, if it is not to be followed. -/
theorem walk_entry (hd : d.at? place = some .directory) (hp : IsPlain piece)
    (hn : d.at? (place ++ [piece]) = some (.link target)) :
    d.walk false links place [piece] = .ok (place ++ [piece]) := by
  rw [walk_plain hd hp, hn]
  rfl

/-- A link that has to be followed is an error once the walk has used up the links it may follow.
It has to be followed unless it is the last piece and the caller wants the link itself. -/
theorem walk_spent (hd : d.at? place = some .directory) (hp : IsPlain piece)
    (hn : d.at? (place ++ [piece]) = some (.link target)) (hf : follow = true ∨ rest ≠ []) :
    d.walk follow 0 place (piece :: rest) = .error .tooManyLinks := by
  rw [walk_plain hd hp, hn]
  rcases hf with rfl | hr
  · simp
  · simp [hr]

/-- A link that is followed puts its own pieces in front of those that are left, at the cost of
one of the links that the walk may follow. -/
theorem walk_follow (hd : d.at? place = some .directory) (hp : IsPlain piece)
    (hn : d.at? (place ++ [piece]) = some (.link target)) (hf : follow = true ∨ rest ≠ []) :
    d.walk follow (links + 1) place (piece :: rest) =
      d.walk follow links (startOf target place) (target.pieces ++ rest) := by
  rw [walk_plain hd hp, hn]
  rcases hf with rfl | hr
  · simp
  · simp [hr]

/-- Whatever holds of a walk that is at its end, and of every walk if it holds of what is left of
it after one step, holds of all walks. The cases are the equations above, with what each of them
asks of the disk as a hypothesis, so a proof by this principle never unfolds `walk`. -/
theorem walk_induction (d : Disk) {P : Nat → Place → List String → Prop}
    (nil : ∀ links place, P links place [])
    (stuck : ∀ links place piece rest, d.at? place ≠ some .directory →
      P links place (piece :: rest))
    (idle : ∀ links place piece rest, d.at? place = some .directory →
      Path.isIdle piece = true → P links place rest → P links place (piece :: rest))
    (up : ∀ links place rest, d.at? place = some .directory → P links place.dropLast rest →
      P links place (".." :: rest))
    (missing : ∀ links place piece rest, d.at? place = some .directory → IsPlain piece →
      d.at? (place ++ [piece]) = none → P links place (piece :: rest))
    (enter : ∀ links place piece rest node, d.at? place = some .directory → IsPlain piece →
      d.at? (place ++ [piece]) = some node → (∀ target, node ≠ .link target) →
      P links (place ++ [piece]) rest → P links place (piece :: rest))
    (spent : ∀ place piece rest target, d.at? place = some .directory → IsPlain piece →
      d.at? (place ++ [piece]) = some (.link target) → P 0 place (piece :: rest))
    (link : ∀ links place piece rest target, d.at? place = some .directory → IsPlain piece →
      d.at? (place ++ [piece]) = some (.link target) →
      P links (startOf target place) (target.pieces ++ rest) →
      P (links + 1) place (piece :: rest)) :
    ∀ links place pieces, P links place pieces
  | links, place, [] => nil links place
  | links, place, piece :: rest => by
    -- the same questions in the same order as the walk asks them: is this a directory, does the
    -- piece lead anywhere, does it lead up, what stands under the name
    by_cases hd : d.at? place = some .directory
    swap
    · exact stuck links place piece rest hd
    by_cases hi : Path.isIdle piece = true
    · exact idle links place piece rest hd hi
        (walk_induction d nil stuck idle up missing enter spent link links place rest)
    by_cases hup : piece = ".."
    · subst hup
      exact up links place rest hd
        (walk_induction d nil stuck idle up missing enter spent link links place.dropLast rest)
    have hp : IsPlain piece := ⟨by simpa using hi, by simpa using hup⟩
    cases hn : d.at? (place ++ [piece]) with
    | none => exact missing links place piece rest hd hp hn
    | some node =>
      by_cases hl : ∀ target, node ≠ .link target
      · exact enter links place piece rest node hd hp hn hl
          (walk_induction d nil stuck idle up missing enter spent link links
            (place ++ [piece]) rest)
      obtain ⟨target, rfl⟩ : ∃ target, node = .link target := by simpa using hl
      -- only here the number of links decides, and it goes down where the pieces may get more
      cases links with
      | zero => exact spent place piece rest target hd hp hn
      | succ links =>
        exact link links place piece rest target hd hp hn
          (walk_induction d nil stuck idle up missing enter spent link links
            (startOf target place) (target.pieces ++ rest))
termination_by links _ pieces => (links, pieces.length)

/-! ## The way of a walk -/

/-- The entries that a walk looks up, links followed to the end. -/
def way (d : Disk) (links : Nat) (place : Place) : List String → List Place
  | [] => []
  | piece :: rest =>
    if !d.isDirectoryAt place then []
    else if Path.isIdle piece then d.way links place rest
    else if piece == ".." then d.way links place.dropLast rest
    else (place ++ [piece]) :: match d.at? (place ++ [piece]) with
      | none => []
      | some (.link target) =>
        match links with
        | 0 => []
        | links + 1 => d.way links (startOf target place) (target.pieces ++ rest)
      | some _ => d.way links (place ++ [piece]) rest
termination_by pieces => (links, pieces.length)

/-- With no pieces left nothing more is looked up. -/
theorem way_nil (d : Disk) (links : Nat) (place : Place) : d.way links place [] = [] := by
  rw [way]

/-- A walk that is not in a directory gives up before it looks up the next piece. -/
theorem way_stuck (hd : d.at? place ≠ some .directory) :
    d.way links place (piece :: rest) = [] := by
  have h : d.isDirectoryAt place = false := by
    rw [← Bool.not_eq_true, isDirectoryAt_iff]
    exact hd
  rw [way, h]
  rfl

/-- An empty piece and a single dot look up nothing. -/
theorem way_idle (hd : d.at? place = some .directory) (hp : Path.isIdle piece = true) :
    d.way links place (piece :: rest) = d.way links place rest := by
  rw [way, isDirectoryAt_iff.2 hd, hp]
  simp

/-- Two dots look up nothing either: the place above is known without the disk. -/
theorem way_up (hd : d.at? place = some .directory) :
    d.way links place (".." :: rest) = d.way links place.dropLast rest := by
  have hi : Path.isIdle ".." = false := by decide
  rw [way, isDirectoryAt_iff.2 hd, hi]
  simp

/-- A name is looked up, and what is found there decides how the way goes on. The four cases are
the equations that follow. -/
theorem way_plain (hd : d.at? place = some .directory) (hp : IsPlain piece) :
    d.way links place (piece :: rest) =
      (place ++ [piece]) :: match d.at? (place ++ [piece]) with
        | none => []
        | some (.link target) =>
          match links with
          | 0 => []
          | links + 1 => d.way links (startOf target place) (target.pieces ++ rest)
        | some _ => d.way links (place ++ [piece]) rest := by
  rw [way, isDirectoryAt_iff.2 hd, hp.1, hp.2]
  simp only [Bool.not_true, Bool.false_eq_true, if_false]

/-- A missing name is on the way too, as its last entry: if something were put there, the walk
would go another way. -/
theorem way_missing (hd : d.at? place = some .directory) (hp : IsPlain piece)
    (hn : d.at? (place ++ [piece]) = none) :
    d.way links place (piece :: rest) = [place ++ [piece]] := by
  rw [way_plain hd hp, hn]

/-- A file or a directory is looked up, and the way goes on below it. -/
theorem way_enter (hd : d.at? place = some .directory) (hp : IsPlain piece)
    (hn : d.at? (place ++ [piece]) = some node) (hl : ∀ target, node ≠ .link target) :
    d.way links place (piece :: rest) =
      (place ++ [piece]) :: d.way links (place ++ [piece]) rest := by
  rw [way_plain hd hp, hn]
  cases node with
  | link target => exact absurd rfl (hl target)
  | directory | file => rfl

/-- The last link is looked up, although it is not followed any more. -/
theorem way_spent (hd : d.at? place = some .directory) (hp : IsPlain piece)
    (hn : d.at? (place ++ [piece]) = some (.link target)) :
    d.way 0 place (piece :: rest) = [place ++ [piece]] := by
  rw [way_plain hd hp, hn]

/-- A link is looked up, and then what its pieces lead to, from where it starts. -/
theorem way_link (hd : d.at? place = some .directory) (hp : IsPlain piece)
    (hn : d.at? (place ++ [piece]) = some (.link target)) :
    d.way (links + 1) place (piece :: rest) =
      (place ++ [piece]) :: d.way links (startOf target place) (target.pieces ++ rest) := by
  rw [way_plain hd hp, hn]

/-! ## Above a place -/

/-- Something holds of a place and of every place above it. -/
def Above (P : Place → Prop) (place : Place) : Prop := ∀ u, u <+: place → P u

section Above

variable {P : Place → Prop} {name : String}

/-- Above the root there is nothing but the root. -/
theorem above_nil (h : P []) : Above P [] := by
  intro u hu
  rwa [List.prefix_nil.1 hu]

/-- What holds above a place holds of the place, since a place counts as above itself here. -/
theorem Above.here (h : Above P place) : P place := h place (List.prefix_refl _)

/-- The root is above every place. -/
theorem Above.root (h : Above P place) : P [] := h [] List.nil_prefix

/-- A step up keeps it, because fewer places are above. -/
theorem Above.dropLast (h : Above P place) : Above P place.dropLast :=
  fun u hu => h u (hu.trans (List.dropLast_prefix _))

/-- A step down keeps it if it holds of the place that is new. -/
theorem Above.concat (h : Above P place) (hn : P (place ++ [name])) :
    Above P (place ++ [name]) := by
  intro u hu
  rcases List.prefix_concat_iff.1 hu with rfl | hu
  · exact hn
  · exact h u hu

/-- A link starts at the root or at the place where it stands, so following it keeps it as well. -/
theorem Above.startOf (h : Above P place) (target : Path) : Above P (startOf target place) := by
  unfold Disk.startOf
  split
  · exact above_nil h.root
  · exact h

end Above

/-- Where a walk ends, it has come down through everything above. What holds above the start, and
of all entries on the way, therefore holds above the end. The induction is on the walk: a step
down adds the entry that the way has just named, and a step up or a link only gives places up. -/
theorem above_of_walk {P : Place → Prop} (links : Nat) (place : Place) (pieces : List String)
    (hp : Above P place) (hw : ∀ u ∈ d.way links place pieces, P u) (follow : Bool)
    (h : d.walk follow links place pieces = .ok v) : Above P v := by
  induction links, place, pieces using walk_induction d with
  | nil links place =>
    rw [walk_nil] at h
    exact Except.ok.inj h ▸ hp
  | stuck links place piece rest hd =>
    rw [walk_stuck hd] at h
    cases h
  | idle links place piece rest hd hi ih =>
    rw [way_idle hd hi] at hw
    rw [walk_idle hd hi] at h
    exact ih hp hw h
  | up links place rest hd ih =>
    rw [way_up hd] at hw
    rw [walk_up hd] at h
    exact ih hp.dropLast hw h
  | missing links place piece rest hd hplain hn =>
    rw [way_missing hd hplain hn] at hw
    rw [walk_missing hd hplain hn] at h
    split at h
    · exact Except.ok.inj h ▸ hp.concat (hw _ (List.mem_singleton_self _))
    · cases h
  | enter links place piece rest node hd hplain hn hl ih =>
    rw [way_enter hd hplain hn hl] at hw
    rw [walk_enter hd hplain hn hl] at h
    obtain ⟨hhere, hrest⟩ := List.forall_mem_cons.1 hw
    exact ih (hp.concat hhere) hrest h
  -- a link that may not be followed any more is an end only as the last piece, for a walk that
  -- wants the link itself; then the link is on the way
  | spent place piece rest target hd hplain hn =>
    rw [way_spent hd hplain hn] at hw
    by_cases hf : follow = true ∨ rest ≠ []
    · rw [walk_spent hd hplain hn hf] at h
      cases h
    · obtain ⟨rfl, rfl⟩ : follow = false ∧ rest = [] := by simpa using hf
      rw [walk_entry hd hplain hn] at h
      exact Except.ok.inj h ▸ hp.concat (hw _ (List.mem_singleton_self _))
  | link links place piece rest target hd hplain hn ih =>
    rw [way_link hd hplain hn] at hw
    obtain ⟨hhere, hrest⟩ := List.forall_mem_cons.1 hw
    by_cases hf : follow = true ∨ rest ≠ []
    · rw [walk_follow hd hplain hn hf] at h
      -- the walk starts anew, at the root or here, and both are known
      exact ih (hp.startOf target) hrest h
    · obtain ⟨rfl, rfl⟩ : follow = false ∧ rest = [] := by simpa using hf
      rw [walk_entry hd hplain hn] at h
      exact Except.ok.inj h ▸ hp.concat hhere

/-! ## Changes beside the way -/

/-- The same stands at a place on two disks, or nothing on both of them. -/
abbrev SameAt (d d' : Disk) (place : Place) : Prop := d'.at? place = d.at? place

/-- The root is a directory on every disk, so walks from the root need no hypothesis about their
start. -/
theorem sameAt_root (d d' : Disk) : Above (SameAt d d') [] := above_nil rfl

/-- A walk ends as before as long as nothing changes on its way, and so does its way. The two are
shown at once, for the hypothesis about the way has to be carried along the walk. Above the start
nothing may have changed either, because two dots lead back up. -/
theorem walk_congr (links : Nat) (place : Place) (pieces : List String)
    (hp : Above (SameAt d d') place) (hw : ∀ u ∈ d.way links place pieces, SameAt d d' u) :
    d'.way links place pieces = d.way links place pieces ∧
      ∀ follow, d'.walk follow links place pieces = d.walk follow links place pieces := by
  induction links, place, pieces using walk_induction d with
  | nil links place =>
    exact ⟨by rw [way_nil, way_nil], fun follow => by rw [walk_nil, walk_nil]⟩
  | stuck links place piece rest hd =>
    have hd' : d'.at? place ≠ some .directory := by rwa [hp.here]
    exact ⟨by rw [way_stuck hd, way_stuck hd'],
      fun follow => by rw [walk_stuck hd, walk_stuck hd']⟩
  | idle links place piece rest hd hi ih =>
    have hd' : d'.at? place = some .directory := hp.here.trans hd
    rw [way_idle hd hi] at hw ⊢
    rw [way_idle hd' hi]
    simpa only [walk_idle hd hi, walk_idle hd' hi] using ih hp hw
  | up links place rest hd ih =>
    have hd' : d'.at? place = some .directory := hp.here.trans hd
    rw [way_up hd] at hw ⊢
    rw [way_up hd']
    simpa only [walk_up hd, walk_up hd'] using ih hp.dropLast hw
  | missing links place piece rest hd hplain hn =>
    have hd' : d'.at? place = some .directory := hp.here.trans hd
    rw [way_missing hd hplain hn] at hw ⊢
    have hn' := (hw _ (List.mem_singleton_self _)).trans hn
    rw [way_missing hd' hplain hn']
    exact ⟨rfl, fun follow => by rw [walk_missing hd hplain hn, walk_missing hd' hplain hn']⟩
  | enter links place piece rest node hd hplain hn hl ih =>
    have hd' : d'.at? place = some .directory := hp.here.trans hd
    rw [way_enter hd hplain hn hl] at hw ⊢
    obtain ⟨hhere, hrest⟩ := List.forall_mem_cons.1 hw
    -- the name has been looked up, so it is on the way and stands for the same on both disks
    have hn' := hhere.trans hn
    obtain ⟨hway, hwalk⟩ := ih (hp.concat hhere) hrest
    rw [way_enter hd' hplain hn' hl, hway]
    refine ⟨rfl, fun follow => ?_⟩
    rw [walk_enter hd hplain hn hl, walk_enter hd' hplain hn' hl, hwalk]
  | spent place piece rest target hd hplain hn =>
    have hd' : d'.at? place = some .directory := hp.here.trans hd
    rw [way_spent hd hplain hn] at hw ⊢
    have hn' := (hw _ (List.mem_singleton_self _)).trans hn
    rw [way_spent hd' hplain hn']
    refine ⟨rfl, fun follow => ?_⟩
    -- a link at the very end need not be followed
    by_cases hf : follow = true ∨ rest ≠ []
    · rw [walk_spent hd hplain hn hf, walk_spent hd' hplain hn' hf]
    · obtain ⟨rfl, rfl⟩ : follow = false ∧ rest = [] := by simpa using hf
      rw [walk_entry hd hplain hn, walk_entry hd' hplain hn']
  | link links place piece rest target hd hplain hn ih =>
    have hd' : d'.at? place = some .directory := hp.here.trans hd
    rw [way_link hd hplain hn] at hw ⊢
    obtain ⟨hhere, hrest⟩ := List.forall_mem_cons.1 hw
    have hn' := hhere.trans hn
    obtain ⟨hway, hwalk⟩ := ih (hp.startOf target) hrest
    rw [way_link hd' hplain hn', hway]
    refine ⟨rfl, fun follow => ?_⟩
    by_cases hf : follow = true ∨ rest ≠ []
    · rw [walk_follow hd hplain hn hf, walk_follow hd' hplain hn' hf, hwalk]
    · obtain ⟨rfl, rfl⟩ : follow = false ∧ rest = [] := by simpa using hf
      rw [walk_entry hd hplain hn, walk_entry hd' hplain hn']

/-- A walk to what was taken away finds that it is missing. -/
theorem walk_gone (links : Nat) (place : Place) (pieces : List String) (hv : d'.at? v = none)
    (hdir : d.at? v = some .directory) (hp : Above (SameAt d d') place)
    (hw : ∀ u ∈ d.way links place pieces, u ≠ v → SameAt d d' u)
    (h : d.walk follow links place pieces = .ok v) :
    d'.walk follow links place pieces = .ok v ∨
      d'.walk follow links place pieces = .error .notFound := by
  induction links, place, pieces using walk_induction d with
  | nil links place =>
    rw [walk_nil] at h ⊢
    exact Or.inl h
  | stuck links place piece rest hd =>
    rw [walk_stuck hd] at h
    cases h
  | idle links place piece rest hd hi ih =>
    have hd' : d'.at? place = some .directory := hp.here.trans hd
    rw [way_idle hd hi] at hw
    rw [walk_idle hd hi] at h
    rw [walk_idle hd' hi]
    exact ih hp hw h
  | up links place rest hd ih =>
    have hd' : d'.at? place = some .directory := hp.here.trans hd
    rw [way_up hd] at hw
    rw [walk_up hd] at h
    rw [walk_up hd']
    exact ih hp.dropLast hw h
  | missing links place piece rest hd hplain hn =>
    -- what is missing was no directory before
    rw [walk_missing hd hplain hn] at h
    split at h
    · obtain rfl := Except.ok.inj h
      rw [hn] at hdir
      cases hdir
    · cases h
  | enter links place piece rest node hd hplain hn hl ih =>
    have hd' : d'.at? place = some .directory := hp.here.trans hd
    rw [way_enter hd hplain hn hl] at hw
    rw [walk_enter hd hplain hn hl] at h
    obtain ⟨hhere, hrest⟩ := List.forall_mem_cons.1 hw
    by_cases he : place ++ [piece] = v
    · -- here the walk comes to it for the first time
      rw [he.symm] at hv ⊢
      rw [walk_missing hd' hplain hv]
      split
      · exact Or.inl rfl
      · exact Or.inr rfl
    · have hn' := (hhere he).trans hn
      rw [walk_enter hd' hplain hn' hl]
      exact ih (hp.concat (hhere he)) hrest h
  | spent place piece rest target hd hplain hn =>
    by_cases hf : follow = true ∨ rest ≠ []
    · rw [walk_spent hd hplain hn hf] at h
      cases h
    · obtain ⟨rfl, rfl⟩ : follow = false ∧ rest = [] := by simpa using hf
      rw [walk_entry hd hplain hn] at h
      obtain rfl := Except.ok.inj h
      rw [hn] at hdir
      cases hdir
  | link links place piece rest target hd hplain hn ih =>
    have hd' : d'.at? place = some .directory := hp.here.trans hd
    rw [way_link hd hplain hn] at hw
    obtain ⟨hhere, hrest⟩ := List.forall_mem_cons.1 hw
    have hne : place ++ [piece] ≠ v := by
      rintro rfl
      rw [hn] at hdir
      cases hdir
    have hn' := (hhere hne).trans hn
    by_cases hf : follow = true ∨ rest ≠ []
    · rw [walk_follow hd hplain hn hf] at h
      rw [walk_follow hd' hplain hn' hf]
      exact ih (hp.startOf target) hrest h
    · obtain ⟨rfl, rfl⟩ : follow = false ∧ rest = [] := by simpa using hf
      rw [walk_entry hd hplain hn] at h
      exact absurd (Except.ok.inj h) hne

/-- A way on which nothing changes but that some of it is taken away leads where it led before,
or breaks off where something is missing. It cannot lead elsewhere, since nothing new has come.
The walk that is broken off has more pieces to come, so the missing name is an error and no end. -/
theorem Leads.cut {links' : Nat} {goal : Place} {trail : List Place}
    (h : Leads d links place pieces links' goal trail) (hp : Above (SameAt d d') place)
    (hc : ∀ u ∈ trail, SameAt d d' u ∨ d'.at? u = none) :
    Leads d' links place pieces links' goal trail ∨ ∀ follow rest, rest ≠ [] →
      d'.walk follow links place (pieces ++ rest) = .error .notFound := by
  -- behind a name that is missing more pieces follow
  have missing : ∀ {links : Nat} {place : Place} {piece : String} {more : List String},
      d'.at? place = some .directory → IsPlain piece → d'.at? (place ++ [piece]) = none →
      ∀ follow rest, rest ≠ [] →
        d'.walk follow links place (piece :: more ++ rest) = .error .notFound := by
    intro links place piece more hd hplain hn follow rest hr
    rw [List.cons_append, walk_missing hd hplain hn, if_neg (by simp [hr])]
  -- the first entry on the trail that is gone decides: before it the walks agree, behind it there
  -- is none
  induction h with
  | nil => exact Or.inl .nil
  | idle hd hi _ ih =>
    have hd' := hp.here.trans hd
    rcases ih hp (List.forall_mem_cons.1 hc).2 with hl | hw
    · exact Or.inl (.idle hd' hi hl)
    · refine Or.inr fun follow rest hr => ?_
      rw [List.cons_append, walk_idle hd' hi, hw follow rest hr]
  | up hd _ ih =>
    have hd' := hp.here.trans hd
    rcases ih hp.dropLast (List.forall_mem_cons.1 hc).2 with hl | hw
    · exact Or.inl (.up hd' hl)
    · refine Or.inr fun follow rest hr => ?_
      rw [List.cons_append, walk_up hd', hw follow rest hr]
  | down hd hplain hn _ ih =>
    have hd' := hp.here.trans hd
    obtain ⟨hhere, hrest⟩ := List.forall_mem_cons.1 (List.forall_mem_cons.1 hc).2
    rcases hhere with hsame | hgone
    · rcases ih (hp.concat hsame) hrest with hl | hw
      · exact Or.inl (.down hd' hplain (hsame.trans hn) hl)
      · refine Or.inr fun follow rest hr => ?_
        rw [List.cons_append, walk_enter hd' hplain (hsame.trans hn) (fun _ => Node.noConfusion),
          hw follow rest hr]
    · exact Or.inr (missing hd' hplain hgone)
  | follow hd hplain hn _ ih =>
    have hd' := hp.here.trans hd
    obtain ⟨hhere, hrest⟩ := List.forall_mem_cons.1 (List.forall_mem_cons.1 hc).2
    rcases hhere with hsame | hgone
    · rcases ih (hp.startOf _) hrest with hl | hw
      · exact Or.inl (.follow hd' hplain (hsame.trans hn) hl)
      · refine Or.inr fun follow rest hr => ?_
        rw [List.cons_append, walk_follow hd' hplain (hsame.trans hn) (Or.inr (by simp [hr])),
          ← List.append_assoc, hw follow rest hr]
    · exact Or.inr (missing hd' hplain hgone)

/-! ## Spellings -/

/-- The directory that the pieces lead to from a place, all links followed. This is what a
session folder is on the disk. -/
def directoryAlong (d : Disk) (links : Nat) (place : Place) (pieces : List String) :
    Except Trouble Place := do
  let v ← d.walk true links place pieces
  match d.at? v with
  | none => .error .notFound
  | some .directory => .ok v
  | some _ => .error .notDirectory

/-- The directory that a path leads to. -/
def directoryOf (d : Disk) (p : Path) : Except Trouble Place :=
  d.directoryAlong linkLimit [] p.pieces

/-- The pieces that lead anywhere. What is left out are empty pieces and single dots. -/
def moves (pieces : List String) : List String := pieces.filter fun piece => !Path.isIdle piece

/-- An idle piece in front does not count. -/
theorem moves_cons_of_idle (h : Path.isIdle piece = true) : moves (piece :: rest) = moves rest := by
  simp [moves, h]

/-- Any other piece in front is the first move. -/
theorem moves_cons (h : Path.isIdle piece = false) :
    moves (piece :: rest) = piece :: moves rest := by
  simp [moves, h]

theorem moves_append (pieces rest : List String) :
    moves (pieces ++ rest) = moves pieces ++ moves rest := List.filter_append ..

/-- The same pieces lead anywhere only if the same piece comes first, behind idle ones. So
spellings can be taken apart at their first moves, one after the other. -/
theorem exists_of_moves_eq_cons {later : List String} (h : moves pieces = piece :: later) :
    ∃ idles rest, pieces = idles ++ piece :: rest ∧ (∀ x ∈ idles, Path.isIdle x = true) ∧
      moves rest = later := by
  induction pieces with
  | nil => cases h
  | cons first pieces ih =>
    cases hi : Path.isIdle first with
    | true =>
      rw [moves_cons_of_idle hi] at h
      obtain ⟨idles, rest, rfl, hidles, hl⟩ := ih h
      exact ⟨first :: idles, rest, rfl, List.forall_mem_cons.2 ⟨hi, hidles⟩, hl⟩
    | false =>
      rw [moves_cons hi] at h
      obtain ⟨rfl, hl⟩ := List.cons.inj h
      exact ⟨[], pieces, rfl, fun x hx => absurd hx List.not_mem_nil, hl⟩

/-- Idle pieces lead nowhere, as long as they are met in a directory. In a file even a dot is an
error, which is why the hypothesis is there. -/
theorem along_idles (links : Nat) {idles : List String} (hd : d.at? place = some .directory)
    (hi : ∀ x ∈ idles, Path.isIdle x = true) (rest : List String) :
    d.directoryAlong links place (idles ++ rest) = d.directoryAlong links place rest ∧
      d.way links place (idles ++ rest) = d.way links place rest := by
  induction idles with
  | nil => exact ⟨rfl, rfl⟩
  | cons x idles ih =>
    obtain ⟨hx, hi⟩ := List.forall_mem_cons.1 hi
    rw [List.cons_append, way_idle hd hx]
    unfold directoryAlong
    rw [walk_idle hd hx]
    exact ih hi

/-- What makes the same moves is led by the same piece, whatever idles in front of it. -/
theorem along_moves (links : Nat) (hd : d.at? place = some .directory)
    (hi : Path.isIdle piece = false) (h : moves pieces = moves (piece :: rest)) :
    ∃ rest', moves rest' = moves rest ∧
      d.directoryAlong links place pieces = d.directoryAlong links place (piece :: rest') ∧
      d.way links place pieces = d.way links place (piece :: rest') := by
  rw [moves_cons hi] at h
  obtain ⟨idles, rest', rfl, hidles, hrest⟩ := exists_of_moves_eq_cons h
  exact ⟨rest', hrest, along_idles links hd hidles (piece :: rest')⟩

/-- Where nothing leads anywhere, all pieces are idle. -/
theorem idle_of_moves_eq_nil (h : moves pieces = []) : ∀ x ∈ pieces, Path.isIdle x = true := by
  intro x hx
  have := List.filter_eq_nil_iff.1 h x hx
  simpa using this

/-- Nothing leads anywhere from what is there and is no directory, not even no pieces at all: a
walk that ends at a file is no directory either, with the same error. -/
theorem directoryAlong_stuck (links : Nat) (hs : d.at? place ≠ none)
    (hd : d.at? place ≠ some .directory) (pieces : List String) :
    d.directoryAlong links place pieces = .error .notDirectory ∧
      d.way links place pieces = [] := by
  unfold directoryAlong
  cases pieces with
  | cons piece rest => exact ⟨by rw [walk_stuck hd]; rfl, way_stuck hd⟩
  | nil =>
    rw [walk_nil]
    refine ⟨?_, way_nil d links place⟩
    show (match d.at? place with | none => _ | some .directory => _ | some _ => _) = _
    cases hn : d.at? place with
    | none => exact absurd hn hs
    | some node =>
      cases node with
      | directory => exact absurd hn hd
      | file | link => rfl

/-- A name that is missing is an error at the end of the pieces just as before it, since a
directory is asked for. -/
theorem directoryAlong_missing (hd : d.at? place = some .directory) (hp : IsPlain piece)
    (hn : d.at? (place ++ [piece]) = none) (rest : List String) :
    d.directoryAlong links place (piece :: rest) = .error .notFound := by
  unfold directoryAlong
  rw [walk_missing hd hp hn]
  split
  · show (match d.at? (place ++ [piece]) with | none => _ | some .directory => _ | some _ => _) = _
    rw [hn]
  · rfl

/-- Pieces that make the same moves have one way, and lead to one directory. The induction
follows the second list; before each of its moves the idle pieces of the first one are skipped
(`along_moves`). Everything above has to be there, so that two dots lead back into a directory. -/
theorem directoryAlong_congr (links : Nat) (place : Place) (pieces : List String)
    (hp : Above (fun u => d.at? u ≠ none) place) {pieces' : List String}
    (h : moves pieces' = moves pieces) :
    d.directoryAlong links place pieces' = d.directoryAlong links place pieces ∧
      d.way links place pieces' = d.way links place pieces := by
  induction links, place, pieces using walk_induction d generalizing pieces' with
  -- all pieces of the first list are idle, and they do no harm: in a directory they are skipped,
  -- anywhere else both ends are the same error
  | nil links place =>
    by_cases hd : d.at? place = some .directory
    · have hidle := along_idles links hd (idle_of_moves_eq_nil h) []
      rwa [List.append_nil] at hidle
    · obtain ⟨he, hway⟩ := directoryAlong_stuck links hp.here hd pieces'
      obtain ⟨he', hway'⟩ := directoryAlong_stuck links hp.here hd []
      exact ⟨he.trans he'.symm, hway.trans hway'.symm⟩
  | stuck links place piece rest hd =>
    obtain ⟨he, hway⟩ := directoryAlong_stuck links hp.here hd pieces'
    obtain ⟨he', hway'⟩ := directoryAlong_stuck links hp.here hd (piece :: rest)
    exact ⟨he.trans he'.symm, hway.trans hway'.symm⟩
  | idle links place piece rest hd hi ih =>
    rw [moves_cons_of_idle hi] at h
    obtain ⟨he, hway⟩ := ih hp h
    obtain ⟨hidle, hidleWay⟩ := along_idles links hd
      (List.forall_mem_singleton.2 hi) rest
    exact ⟨he.trans hidle.symm, hway.trans hidleWay.symm⟩
  | up links place rest hd ih =>
    obtain ⟨rest', hrest, hskip, hskipWay⟩ := along_moves links hd (by decide) h
    obtain ⟨he, hway⟩ := ih hp.dropLast hrest
    rw [hskip, hskipWay, way_up hd, way_up hd]
    unfold directoryAlong at he ⊢
    rw [walk_up hd, walk_up hd]
    exact ⟨he, hway⟩
  | missing links place piece rest hd hplain hn =>
    obtain ⟨rest', hrest, hskip, hskipWay⟩ := along_moves links hd hplain.1 h
    rw [hskip, hskipWay, directoryAlong_missing hd hplain hn, directoryAlong_missing hd hplain hn,
      way_missing hd hplain hn, way_missing hd hplain hn]
    exact ⟨rfl, rfl⟩
  | enter links place piece rest node hd hplain hn hl ih =>
    obtain ⟨rest', hrest, hskip, hskipWay⟩ := along_moves links hd hplain.1 h
    obtain ⟨he, hway⟩ := ih (hp.concat (by rw [hn]; exact Option.some_ne_none _)) hrest
    rw [hskip, hskipWay, way_enter hd hplain hn hl, way_enter hd hplain hn hl, hway]
    unfold directoryAlong at he ⊢
    rw [walk_enter hd hplain hn hl, walk_enter hd hplain hn hl]
    exact ⟨he, rfl⟩
  | spent place piece rest target hd hplain hn =>
    obtain ⟨rest', hrest, hskip, hskipWay⟩ := along_moves 0 hd hplain.1 h
    rw [hskip, hskipWay, way_spent hd hplain hn, way_spent hd hplain hn]
    unfold directoryAlong
    rw [walk_spent hd hplain hn (Or.inl rfl), walk_spent hd hplain hn (Or.inl rfl)]
    exact ⟨rfl, rfl⟩
  | link links place piece rest target hd hplain hn ih =>
    obtain ⟨rest', hrest, hskip, hskipWay⟩ := along_moves (links + 1) hd hplain.1 h
    -- the pieces of the link come in front of both lists, so these differ in idle pieces still
    have hmoves : moves (target.pieces ++ rest') = moves (target.pieces ++ rest) := by
      rw [moves_append, moves_append, hrest]
    obtain ⟨he, hway⟩ := ih (hp.startOf target) hmoves
    rw [hskip, hskipWay, way_link hd hplain hn, way_link hd hplain hn, hway]
    unfold directoryAlong at he ⊢
    rw [walk_follow hd hplain hn (Or.inl rfl), walk_follow hd hplain hn (Or.inl rfl)]
    exact ⟨he, rfl⟩

/-- The piece that makes a step; a root or a dot in front makes none. -/
def moveOf : Path.Part → Option String
  | .root | .here => none
  | .up => some ".."
  | .name n => some n

/-- The moves of pieces behind the first one are their steps. Of the parts of a path only names
and two dots come from there. -/
theorem moves_eq_filterMap (pieces : List String) :
    moves pieces = (pieces.filterMap Path.step?).filterMap moveOf := by
  induction pieces with
  | nil => rfl
  | cons piece rest ih =>
    cases hi : Path.isIdle piece with
    | true =>
      have hs : Path.step? piece = none := by simp [Path.step?, hi]
      rw [moves_cons_of_idle hi, ih, List.filterMap_cons_none hs]
    | false =>
      rw [moves_cons hi, ih]
      by_cases hup : piece = ".."
      · subst hup
        rfl
      · have hs : Path.step? piece = some (.name piece) := by simp [Path.step?, hi, hup]
        rw [List.filterMap_cons_some hs]
        rfl

/-- The moves of a path are its steps, but for a root or a dot in front. -/
theorem moves_eq_parts (p : Path) : moves p.pieces = p.parts.filterMap moveOf := by
  obtain ⟨pieces⟩ := p
  cases pieces with
  | nil => rfl
  | cons first rest =>
    by_cases hi : Path.isIdle first = true
    · rw [moves_cons_of_idle hi, moves_eq_filterMap]
      have hfirst : first = "" ∨ first = "." := by simpa [Path.isIdle] using hi
      rcases hfirst with rfl | rfl
      · cases rest <;> rfl
      · rfl
    · rw [moves_eq_filterMap]
      have hfirst : first ≠ "" ∧ first ≠ "." := by simpa [Path.isIdle] using hi
      simp only [Path.parts, beq_iff_eq, hfirst.1, hfirst.2, if_false, List.filterMap_append]
      rw [← List.filterMap_append, List.filterMap_cons]
      cases Path.step? first <;> rfl

/-- Equal paths make the same moves, since they have the same parts. -/
theorem moves_of_beq {p q : Path} (h : (p == q) = true) : moves p.pieces = moves q.pieces := by
  rw [moves_eq_parts, moves_eq_parts, Path.beq_iff.1 h]

/-- From the root the way hangs on the moves alone: the root is a directory on every disk. -/
theorem way_of_moves (d : Disk) (h : moves pieces = moves rest) :
    d.way linkLimit [] pieces = d.way linkLimit [] rest :=
  (directoryAlong_congr linkLimit [] rest (above_nil (by rw [at?_nil]; exact Option.some_ne_none _))
    h).2

/-- From the root the directory that is led to hangs on the moves alone. -/
theorem directoryAlong_of_moves (d : Disk) (h : moves pieces = moves rest) :
    d.directoryAlong linkLimit [] pieces = d.directoryAlong linkLimit [] rest :=
  (directoryAlong_congr linkLimit [] rest (above_nil (by rw [at?_nil]; exact Option.some_ne_none _))
    h).1

/-- The spellings of a path lead to one directory. So a folder that is registered under one
spelling and asked for under another one is still judged by what is in it. -/
theorem directoryOf_of_beq (d : Disk) {p q : Path} (h : (p == q) = true) :
    d.directoryOf p = d.directoryOf q := directoryAlong_of_moves d (moves_of_beq h)

end PushToTalk.Disk
