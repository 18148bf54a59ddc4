import PushToTalk.Proofs.Disk.Tree
import PushToTalk.Proofs.Path

/-
  Ways through the disk.

  A path is walked piece by piece: a name leads down, two dots lead up, a link leads to its target
  and on, and in the end a place is reached or a trouble comes up.  Walks recur on the links that
  may still be followed and on the pieces, and the pieces of a target are put in front of those that
  are left, so the path which is walked is not the one that was given.  What later modules need of
  all this is said once, by a relation.

  1. **`Leads`** — a way that only leads through directories and along links, with its trail: the
     places that it looks at.  It stays what it is as long as nothing changes there (`Leads.congr`),
     and it leads to a directory.

  2. **Walks** — a path whose front part is such a way comes down to its rest, walked from where the
     way leads to (`walk_of_leads`).  And whoever gets anywhere has gone such a way: if the front
     part is none, every walk ends on it, in the same trouble (`leads_or_stuck`).  These two are
     what is known of walks from here on.

  3. **Making directories** — along a way nothing is made (`makeAlong_of_leads`); in general the
     directories for the front part are made first, and it is a way then (`makeAlong_front`).
     `Extends` says that nothing but directories is added.

  The number of links that are followed is bounded; the recursions here are on that number first, and
  then on the pieces.

  Main statements: `walk_of_leads`, `leads_or_stuck`, `makeAlong_of_leads`, `makeAlong_front` and
  `makeDirectories_extends`.
-/

namespace PushToTalk.Disk

open PushToTalk.Path (IsPlain)

/-- Where the target of a link starts that stands in a directory. -/
def startOf (target : Path) (place : Place) : Place :=
  match target.pieces with
  | "" :: _ :: _ => []
  | _ => place

/-- The pieces lead from a place to a directory; what the way looks at is its trail. -/
inductive Leads (d : Disk) : Nat → Place → List String → Nat → Place → List Place → Prop
  | nil {links : Nat} {place : Place} : Leads d links place [] links place []
  | idle {links links' : Nat} {place goal : Place} {piece : String} {rest : List String}
      {trail : List Place} (hd : d.at? place = some .directory) (hp : Path.isIdle piece = true)
      (h : Leads d links place rest links' goal trail) :
      Leads d links place (piece :: rest) links' goal (place :: trail)
  | up {links links' : Nat} {place goal : Place} {rest : List String} {trail : List Place}
      (hd : d.at? place = some .directory)
      (h : Leads d links place.dropLast rest links' goal trail) :
      Leads d links place (".." :: rest) links' goal (place :: trail)
  | down {links links' : Nat} {place goal : Place} {piece : String} {rest : List String}
      {trail : List Place} (hd : d.at? place = some .directory) (hp : IsPlain piece)
      (hn : d.at? (place ++ [piece]) = some .directory)
      (h : Leads d links (place ++ [piece]) rest links' goal trail) :
      Leads d links place (piece :: rest) links' goal (place :: (place ++ [piece]) :: trail)
  | follow {links links' : Nat} {place goal : Place} {piece : String} {rest : List String}
      {target : Path} {trail : List Place} (hd : d.at? place = some .directory)
      (hp : IsPlain piece) (hn : d.at? (place ++ [piece]) = some (.link target))
      (h : Leads d links (startOf target place) (target.pieces ++ rest) links' goal trail) :
      Leads d (links + 1) place (piece :: rest) links' goal (place :: (place ++ [piece]) :: trail)

variable {d d' : Disk} {links links' : Nat} {place goal : Place} {pieces : List String}
  {trail : List Place}

/-- A way stays what it is as long as what it looks at does. -/
theorem Leads.congr (h : Leads d links place pieces links' goal trail)
    (he : ∀ v ∈ trail, d'.at? v = d.at? v) : Leads d' links place pieces links' goal trail := by
  induction h with
  | nil => exact .nil
  | idle hd hp _ ih =>
    obtain ⟨hplace, hrest⟩ := List.forall_mem_cons.1 he
    exact .idle (hplace.trans hd) hp (ih hrest)
  | up hd _ ih =>
    obtain ⟨hplace, hrest⟩ := List.forall_mem_cons.1 he
    exact .up (hplace.trans hd) (ih hrest)
  | down hd hp hn _ ih =>
    obtain ⟨hplace, hrest⟩ := List.forall_mem_cons.1 he
    obtain ⟨hnode, hrest⟩ := List.forall_mem_cons.1 hrest
    exact .down (hplace.trans hd) hp (hnode.trans hn) (ih hrest)
  | follow hd hp hn _ ih =>
    obtain ⟨hplace, hrest⟩ := List.forall_mem_cons.1 he
    obtain ⟨hnode, hrest⟩ := List.forall_mem_cons.1 hrest
    exact .follow (hplace.trans hd) hp (hnode.trans hn) (ih hrest)

/-- A way looks at directories and links only. -/
theorem Leads.node_of_mem (h : Leads d links place pieces links' goal trail) {v : Place}
    (hv : v ∈ trail) : d.at? v = some .directory ∨ ∃ target, d.at? v = some (.link target) := by
  induction h with
  | nil => cases hv
  | idle hd _ _ ih =>
    rcases List.mem_cons.1 hv with rfl | hv
    · exact Or.inl hd
    · exact ih hv
  | up hd _ ih =>
    rcases List.mem_cons.1 hv with rfl | hv
    · exact Or.inl hd
    · exact ih hv
  | down hd _ hn _ ih =>
    rcases List.mem_cons.1 hv with rfl | hv
    · exact Or.inl hd
    rcases List.mem_cons.1 hv with rfl | hv
    · exact Or.inl hn
    · exact ih hv
  | follow hd _ hn _ ih =>
    rcases List.mem_cons.1 hv with rfl | hv
    · exact Or.inl hd
    rcases List.mem_cons.1 hv with rfl | hv
    · exact Or.inr ⟨_, hn⟩
    · exact ih hv

/-- The target of a link starts at a directory: the root, or the one that the link stands in. -/
theorem at?_startOf (hp : d.at? place = some .directory) (target : Path) :
    d.at? (startOf target place) = some .directory := by
  unfold startOf
  split
  · exact at?_nil d
  · exact hp

/-- A directory stands in a directory. -/
theorem IsTree.at?_dropLast (h : d.IsTree) (hp : d.at? place = some .directory) :
    d.at? place.dropLast = some .directory := by
  rcases List.eq_nil_or_concat place with rfl | ⟨p, n, rfl⟩
  · exact hp
  · rw [List.concat_eq_append, List.dropLast_concat]
    rw [List.concat_eq_append] at hp
    exact h.parent p n _ hp

/-- A way from a directory leads to a directory. -/
theorem Leads.goal_directory (h : Leads d links place pieces links' goal trail) (ht : d.IsTree)
    (hp : d.at? place = some .directory) : d.at? goal = some .directory := by
  induction h with
  | nil => exact hp
  | idle _ _ _ ih => exact ih hp
  | up hd _ ih => exact ih (ht.at?_dropLast hd)
  | down _ _ hn _ ih => exact ih hn
  | follow hd _ _ _ ih => exact ih (at?_startOf hd _)

/-! ## One step of a walk -/

section Step

variable {follow : Bool} {piece : String} {rest : List String}

/-- An empty piece and a dot lead nowhere else. -/
theorem walk_idle (hd : d.at? place = some .directory) (hp : Path.isIdle piece = true) :
    d.walk follow links place (piece :: rest) = d.walk follow links place rest := by
  rw [walk, isDirectoryAt_iff.2 hd, hp]
  simp

/-- Two dots lead up. -/
theorem walk_up (hd : d.at? place = some .directory) :
    d.walk follow links place (".." :: rest) = d.walk follow links place.dropLast rest := by
  have hi : Path.isIdle ".." = false := by decide
  rw [walk, isDirectoryAt_iff.2 hd, hi]
  simp

/-- A name leads on as what stands there says. -/
theorem walk_plain (hd : d.at? place = some .directory) (hp : IsPlain piece) :
    d.walk follow links place (piece :: rest) =
      match d.at? (place ++ [piece]) with
      | none => if rest.isEmpty then .ok (place ++ [piece]) else .error .notFound
      | some (.link target) =>
        if rest.isEmpty && !follow then .ok (place ++ [piece])
        else match links with
          | 0 => .error .tooManyLinks
          | links + 1 => d.walk follow links (startOf target place) (target.pieces ++ rest)
      | some _ => d.walk follow links (place ++ [piece]) rest := by
  rw [walk, isDirectoryAt_iff.2 hd, hp.1, hp.2]
  simp only [Bool.not_true, Bool.false_eq_true, if_false]
  rfl

/-- Nothing is reached from what is no directory. -/
theorem walk_stuck (hd : d.at? place ≠ some .directory) :
    d.walk follow links place (piece :: rest) = .error .notDirectory := by
  have h : d.isDirectoryAt place = false := by
    rw [← Bool.not_eq_true, isDirectoryAt_iff]
    exact hd
  rw [walk, h]
  rfl

end Step

/-! ## Walking -/

/-- Walking a path comes down to walking the rest from where its front part leads to. -/
theorem walk_of_leads (h : Leads d links place pieces links' goal trail) (follow : Bool)
    {rest : List String} (hr : rest ≠ []) :
    d.walk follow links place (pieces ++ rest) = d.walk follow links' goal rest := by
  induction h with
  | nil => rfl
  | idle hd hp _ ih =>
    rw [List.cons_append, walk_idle hd hp, ih]
  | up hd _ ih =>
    rw [List.cons_append, walk_up hd, ih]
  | down hd hp hn _ ih =>
    rw [List.cons_append, walk_plain hd hp, hn]
    exact ih
  | @follow links _ place _ piece more target _ hd hp hn _ ih =>
    -- more pieces come behind the link, so it is followed wherever it stands
    have hne : (more ++ rest).isEmpty = false := by simp [hr]
    rw [List.cons_append, walk_plain hd hp, hn]
    simp only [hne, Bool.false_and, Bool.false_eq_true, if_false]
    rw [← List.append_assoc]
    exact ih

/-- Walking a way to its end comes to where it leads to. -/
theorem Leads.walk (h : Leads d links place pieces links' goal trail) :
    d.walk true links place pieces = .ok goal := by
  induction h with
  | nil => rw [Disk.walk]
  | idle hd hp _ ih => rw [walk_idle hd hp, ih]
  | up hd _ ih => rw [walk_up hd, ih]
  | down hd hp hn _ ih =>
    rw [walk_plain hd hp, hn]
    exact ih
  | follow hd hp hn _ ih =>
    rw [walk_plain hd hp, hn]
    simp only [Bool.not_true, Bool.and_false, Bool.false_eq_true, if_false]
    exact ih

/-- The front part of a path is a way, or every walk ends on it in the same trouble, whatever
follows behind. -/
theorem leads_or_stuck (d : Disk) :
    ∀ (links : Nat) (place : Place) (pieces : List String),
      (∃ links' goal trail, Leads d links place pieces links' goal trail) ∨
        ∃ trouble, ∀ follow rest, rest ≠ [] →
          d.walk follow links place (pieces ++ rest) = .error trouble
  | links, place, [] => Or.inl ⟨links, place, [], .nil⟩
  | links, place, piece :: more => by
    by_cases hd : d.at? place = some .directory
    swap
    · exact Or.inr ⟨.notDirectory, fun follow rest _ => walk_stuck hd⟩
    by_cases hi : Path.isIdle piece = true
    · rcases leads_or_stuck d links place more with ⟨links', goal, trail, hl⟩ | ⟨trouble, hw⟩
      · exact Or.inl ⟨links', goal, _, .idle hd hi hl⟩
      · refine Or.inr ⟨trouble, fun follow rest hr => ?_⟩
        rw [List.cons_append, walk_idle hd hi]
        exact hw follow rest hr
    by_cases hup : piece = ".."
    · subst hup
      rcases leads_or_stuck d links place.dropLast more with
        ⟨links', goal, trail, hl⟩ | ⟨trouble, hw⟩
      · exact Or.inl ⟨links', goal, _, .up hd hl⟩
      · refine Or.inr ⟨trouble, fun follow rest hr => ?_⟩
        rw [List.cons_append, walk_up hd]
        exact hw follow rest hr
    -- a name: what stands there decides, and nothing but a directory or a link leads on
    have hp : IsPlain piece := ⟨by simpa using hi, by simpa using hup⟩
    have hne : ∀ {rest : List String}, rest ≠ [] → (more ++ rest).isEmpty = false := by
      intro rest hr
      simp [hr]
    cases hn : d.at? (place ++ [piece]) with
    | none =>
      refine Or.inr ⟨.notFound, fun follow rest hr => ?_⟩
      rw [List.cons_append, walk_plain hd hp, hn, hne hr]
      rfl
    | some node =>
      cases node with
      | directory =>
        rcases leads_or_stuck d links (place ++ [piece]) more with
          ⟨links', goal, trail, hl⟩ | ⟨trouble, hw⟩
        · exact Or.inl ⟨links', goal, _, .down hd hp hn hl⟩
        · refine Or.inr ⟨trouble, fun follow rest hr => ?_⟩
          rw [List.cons_append, walk_plain hd hp, hn]
          exact hw follow rest hr
      | file bytes =>
        -- a file is in the way, and more pieces follow
        refine Or.inr ⟨.notDirectory, fun follow rest hr => ?_⟩
        obtain ⟨next, later, he⟩ := List.exists_cons_of_ne_nil (by simp [hr] : more ++ rest ≠ [])
        rw [List.cons_append, walk_plain hd hp, hn]
        simp only [he]
        exact walk_stuck (by rw [hn]; exact fun e => by cases e)
      | link target =>
        cases links with
        | zero =>
          refine Or.inr ⟨.tooManyLinks, fun follow rest hr => ?_⟩
          rw [List.cons_append, walk_plain hd hp, hn, hne hr]
          rfl
        | succ links =>
          -- the pieces of the target belong to the front part from here on
          rcases leads_or_stuck d links (startOf target place) (target.pieces ++ more) with
            ⟨links', goal, trail, hl⟩ | ⟨trouble, hw⟩
          · exact Or.inl ⟨links', goal, _, .follow hd hp hn hl⟩
          · refine Or.inr ⟨trouble, fun follow rest hr => ?_⟩
            rw [List.cons_append, walk_plain hd hp, hn, hne hr]
            simp only [Bool.false_and, Bool.false_eq_true, if_false]
            rw [← List.append_assoc]
            exact hw follow rest hr
termination_by links _ pieces => (links, pieces.length)

/-- A walk ends at a directory, or at a place in a directory; with links followed no link stands
there. -/
theorem walk_end (ht : d.IsTree) {v : Place} :
    ∀ (links : Nat) (place : Place) (pieces : List String), d.at? place = some .directory →
      d.walk true links place pieces = .ok v →
      d.at? v = some .directory ∨ ∃ p n, v = p ++ [n] ∧ d.at? p = some .directory ∧
        ∀ target, d.at? v ≠ some (.link target)
  | links, place, [], hd, h => by
    rw [walk] at h
    cases h
    exact Or.inl hd
  | links, place, piece :: more, hd, h => by
    by_cases hi : Path.isIdle piece = true
    · rw [walk_idle hd hi] at h
      exact walk_end ht links place more hd h
    by_cases hup : piece = ".."
    · subst hup
      rw [walk_up hd] at h
      exact walk_end ht links place.dropLast more (ht.at?_dropLast hd) h
    have hp : IsPlain piece := ⟨by simpa using hi, by simpa using hup⟩
    rw [walk_plain hd hp] at h
    cases hn : d.at? (place ++ [piece]) with
    | none =>
      -- only the last name may be missing
      simp only [hn] at h
      split at h
      · cases h
        refine Or.inr ⟨place, piece, rfl, hd, fun target e => ?_⟩
        rw [hn] at e
        cases e
      · cases h
    | some node =>
      cases node with
      | directory =>
        simp only [hn] at h
        exact walk_end ht links (place ++ [piece]) more hn h
      | file bytes =>
        simp only [hn] at h
        cases more with
        | nil =>
          rw [walk] at h
          cases h
          refine Or.inr ⟨place, piece, rfl, hd, fun target e => ?_⟩
          rw [hn] at e
          cases e
        | cons next later =>
          rw [walk_stuck (by rw [hn]; exact fun e => by cases e)] at h
          cases h
      | link target =>
        cases links with
        | zero =>
          rw [hn] at h
          simp at h
        | succ links =>
          simp only [hn, Bool.not_true, Bool.and_false, Bool.false_eq_true, if_false] at h
          exact walk_end ht links (startOf target place) (target.pieces ++ more)
            (at?_startOf hd target) h
termination_by links _ pieces => (links, pieces.length)

/-! ## Making directories -/

section Make

variable {fixed : Nat} {piece : String} {rest : List String}

/-- An empty piece and a dot make nothing. -/
theorem makeAlong_idle (hd : d.at? place = some .directory) (hp : Path.isIdle piece = true) :
    makeAlong links fixed d place (piece :: rest) = makeAlong links (fixed - 1) d place rest := by
  rw [makeAlong, isDirectoryAt_iff.2 hd, hp]
  simp

/-- Two dots make nothing, and lead up. -/
theorem makeAlong_up (hd : d.at? place = some .directory) :
    makeAlong links fixed d place (".." :: rest) =
      makeAlong links (fixed - 1) d place.dropLast rest := by
  have hi : Path.isIdle ".." = false := by decide
  rw [makeAlong, isDirectoryAt_iff.2 hd, hi]
  simp

/-- For a name a directory is made if nothing stands there, unless the piece is one of a link's
target. -/
theorem makeAlong_plain (hd : d.at? place = some .directory) (hp : IsPlain piece) :
    makeAlong links fixed d place (piece :: rest) =
      match d.at? (place ++ [piece]) with
      | none =>
        if 0 < fixed then .error .notFound
        else makeAlong links 0 (d.set (place ++ [piece]) .directory) (place ++ [piece]) rest
      | some (.link target) =>
        match links with
        | 0 => .error .tooManyLinks
        | links + 1 => makeAlong links (target.pieces.length + (fixed - 1)) d
            (startOf target place) (target.pieces ++ rest)
      | some _ => makeAlong links (fixed - 1) d (place ++ [piece]) rest := by
  rw [makeAlong, isDirectoryAt_iff.2 hd, hp.1, hp.2]
  simp only [Bool.not_true, Bool.false_eq_true, if_false]
  rfl

/-- Nothing can be made where no directory is. -/
theorem makeAlong_stuck (hd : d.at? place ≠ some .directory) {pieces : List String} :
    makeAlong links fixed d place pieces = .error .notDirectory := by
  have h : d.isDirectoryAt place = false := by
    rw [← Bool.not_eq_true, isDirectoryAt_iff]
    exact hd
  cases pieces with
  | nil =>
    rw [makeAlong, h]
    rfl
  | cons piece rest =>
    rw [makeAlong, h]
    rfl

end Make

/-- Whoever makes a directory has started at one. -/
theorem directory_of_makeAlong {fixed : Nat} (h : makeAlong links fixed d place pieces = .ok d') :
    d.at? place = some .directory := by
  by_cases hd : d.at? place = some .directory
  · exact hd
  · rw [makeAlong_stuck hd] at h
    cases h

/-- Along a way nothing is missing. -/
theorem makeAlong_of_leads (h : Leads d links place pieces links' goal trail) {fixed : Nat}
    (hf : fixed ≤ pieces.length) (rest : List String) :
    makeAlong links fixed d place (pieces ++ rest) = makeAlong links' 0 d goal rest := by
  induction h generalizing fixed with
  | nil =>
    obtain rfl := Nat.le_zero.1 hf
    rfl
  | idle hd hp _ ih =>
    rw [List.cons_append, makeAlong_idle hd hp]
    exact ih (by simp at hf; omega)
  | up hd _ ih =>
    rw [List.cons_append, makeAlong_up hd]
    exact ih (by simp at hf; omega)
  | down hd hp hn _ ih =>
    rw [List.cons_append, makeAlong_plain hd hp, hn]
    exact ih (by simp at hf; omega)
  | follow hd hp hn _ ih =>
    rw [List.cons_append, makeAlong_plain hd hp, hn]
    simp only [← List.append_assoc]
    exact ih (by simp at hf ⊢; omega)

/-- Everything is still there, and nothing but directories was added. -/
structure Extends (d d' : Disk) : Prop where
  kept : ∀ {v node}, d.at? v = some node → d'.at? v = some node
  added : ∀ {v node}, d'.at? v = some node → d.at? v = some node ∨ node = .directory

/-- A disk extends itself. -/
theorem Extends.refl (d : Disk) : Extends d d := ⟨fun h => h, Or.inl⟩

/-- Extensions add up. -/
theorem Extends.trans {d₁ d₂ d₃ : Disk} (h : Extends d₁ d₂) (k : Extends d₂ d₃) :
    Extends d₁ d₃ where
  kept hv := k.kept (h.kept hv)
  added hv := by
    rcases k.added hv with hv | hdir
    · exact h.added hv
    · exact Or.inr hdir

/-- A directory where nothing was is an extension. -/
theorem extends_set {name : String} (hn : d.at? (place ++ [name]) = none) :
    Extends d (d.set (place ++ [name]) .directory) where
  kept {v node} hv := by
    rw [at?_set, if_neg]
    · exact hv
    · rintro rfl
      rw [hn] at hv
      cases hv
  added {v node} hv := by
    rw [at?_set] at hv
    split at hv
    · exact Or.inr (Option.some.inj hv).symm
    · exact Or.inl hv

/-- Whoever made directories for a path has first made those for its front part, and gone the way
along them then; so has anyone who starts with the same front part. -/
theorem makeAlong_front {d₂ : Disk} :
    ∀ (links fixed : Nat) (d : Disk) (place : Place) (pieces rest : List String),
      fixed ≤ pieces.length → d.IsTree →
      makeAlong links fixed d place (pieces ++ rest) = .ok d₂ →
      ∃ d₁ links' goal trail, makeAlong links fixed d place pieces = .ok d₁ ∧ d₁.IsTree ∧
        Extends d d₁ ∧ Leads d₁ links place pieces links' goal trail ∧
        ∀ other, makeAlong links fixed d place (pieces ++ other) =
          makeAlong links' 0 d₁ goal other
  | links, fixed, d, place, [], rest, hf, ht, h => by
    obtain rfl := Nat.le_zero.1 hf
    have hd := directory_of_makeAlong h
    refine ⟨d, links, place, [], ?_, ht, Extends.refl d, .nil, fun _ => rfl⟩
    rw [makeAlong, isDirectoryAt_iff.2 hd]
    rfl
  | links, fixed, d, place, piece :: more, rest, hf, ht, h => by
    have hd := directory_of_makeAlong h
    have hf' : fixed - 1 ≤ more.length := by simp at hf; omega
    rw [List.cons_append] at h
    by_cases hi : Path.isIdle piece = true
    · rw [makeAlong_idle hd hi] at h
      obtain ⟨d₁, links', goal, trail, hm, ht₁, he, hl, hr⟩ :=
        makeAlong_front links (fixed - 1) d place more rest hf' ht h
      refine ⟨d₁, links', goal, _, by rw [makeAlong_idle hd hi, hm], ht₁, he,
        .idle (he.kept hd) hi hl, fun other => ?_⟩
      rw [List.cons_append, makeAlong_idle hd hi, hr]
    by_cases hup : piece = ".."
    · subst hup
      rw [makeAlong_up hd] at h
      obtain ⟨d₁, links', goal, trail, hm, ht₁, he, hl, hr⟩ :=
        makeAlong_front links (fixed - 1) d place.dropLast more rest hf' ht h
      refine ⟨d₁, links', goal, _, by rw [makeAlong_up hd, hm], ht₁, he,
        .up (he.kept hd) hl, fun other => ?_⟩
      rw [List.cons_append, makeAlong_up hd, hr]
    have hp : IsPlain piece := ⟨by simpa using hi, by simpa using hup⟩
    rw [makeAlong_plain hd hp] at h
    cases hn : d.at? (place ++ [piece]) with
    | none =>
      simp only [hn] at h
      split at h
      · cases h
      next hfixed =>
      -- the directory is made, and the way goes on through it
      have ht' : (d.set (place ++ [piece]) .directory).IsTree := ht.set hd (Or.inl rfl)
      have he' := extends_set hn
      obtain ⟨d₁, links', goal, trail, hm, ht₁, he, hl, hr⟩ :=
        makeAlong_front links 0 _ (place ++ [piece]) more rest (Nat.zero_le _) ht' h
      have hmade : (d.set (place ++ [piece]) .directory).at? (place ++ [piece]) =
          some .directory := by
        rw [at?_set, if_pos rfl]
      refine ⟨d₁, links', goal, _, ?_, ht₁, he'.trans he,
        .down (he.kept (he'.kept hd)) hp (he.kept hmade) hl, fun other => ?_⟩
      · rw [makeAlong_plain hd hp]
        simp only [hn, if_neg hfixed]
        exact hm
      · rw [List.cons_append, makeAlong_plain hd hp]
        simp only [hn, if_neg hfixed]
        exact hr other
    | some node =>
      cases node with
      | directory =>
        simp only [hn] at h
        obtain ⟨d₁, links', goal, trail, hm, ht₁, he, hl, hr⟩ :=
          makeAlong_front links (fixed - 1) d (place ++ [piece]) more rest hf' ht h
        refine ⟨d₁, links', goal, _, ?_, ht₁, he, .down (he.kept hd) hp (he.kept hn) hl,
          fun other => ?_⟩
        · rw [makeAlong_plain hd hp]
          simp only [hn]
          exact hm
        · rw [List.cons_append, makeAlong_plain hd hp]
          simp only [hn]
          exact hr other
      | file bytes =>
        simp only [hn] at h
        rw [makeAlong_stuck (by rw [hn]; exact fun e => by cases e)] at h
        cases h
      | link target =>
        cases links with
        | zero =>
          simp only [hn] at h
          cases h
        | succ links =>
          simp only [hn] at h
          -- as long as pieces of a target are left nothing is made, and they are all in front
          rw [← List.append_assoc] at h
          obtain ⟨d₁, links', goal, trail, hm, ht₁, he, hl, hr⟩ :=
            makeAlong_front links (target.pieces.length + (fixed - 1)) d
              (startOf target place) (target.pieces ++ more) rest (by simp; omega) ht h
          refine ⟨d₁, links', goal, _, ?_, ht₁, he, .follow (he.kept hd) hp (he.kept hn) hl,
            fun other => ?_⟩
          · rw [makeAlong_plain hd hp]
            simp only [hn]
            exact hm
          · rw [List.cons_append, makeAlong_plain hd hp]
            simp only [hn]
            rw [← List.append_assoc]
            exact hr other
termination_by links _ _ _ pieces => (links, pieces.length)

/-- Making directories adds directories and changes nothing else. -/
theorem makeDirectories_extends {p : Path} (ht : d.IsTree) (hm : d.makeDirectories p = .ok d') :
    Extends d d' ∧ d'.IsTree := by
  unfold makeDirectories at hm
  rw [← List.append_nil p.pieces] at hm
  obtain ⟨d₁, links, goal, trail, -, htree, hext, -, hrest⟩ :=
    makeAlong_front linkLimit 0 d [] p.pieces [] (Nat.zero_le _) ht hm
  rw [hrest, makeAlong] at hm
  split at hm
  · obtain rfl := Except.ok.inj hm
    exact ⟨hext, htree⟩
  · cases hm

end PushToTalk.Disk
