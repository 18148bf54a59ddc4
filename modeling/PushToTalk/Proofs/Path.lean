import PushToTalk.Proofs.RawPath
import PushToTalk.User

/-
  Entries of directories, as paths.

  A recording is found by adding a name to the path of its session folder, and its folder is found
  again by leaving it.  Paths are lists of pieces, and a piece need not lead anywhere: there may be
  a slash at the end, a dot in between.  So that adding and leaving undo each other is not to be
  taken for granted; it holds of plain names.  A name is plain when it names an entry: not empty,
  not a dot, not two dots.

  1. **The pieces in front of an entry** (`front`) — all but the emptiness behind a slash at the
     end.  A path that ends in a plain name has no such emptiness (`front_child`).

  2. **Steps** — adding a plain name adds one step behind the others (`parts_child`); any other
     piece behind a plain name gives no entry (`fileName?_child_of_not_plain`).

  3. **Neighbours** — leaving an entry of an entry leads back to the very same path, spelled as
     before (`parent?_child`), and entries of one directory are told apart by their names
     (`child_beq_child`).

  4. **File names** — a plain name at the end is the file name, and the user of a file hangs on
     nothing else of its path.

  Where a path leads on a disk, through links and past missing directories, is the matter of
  `Disk.Way`.

  Main statements: `parts_child`, `parent?_child`, `child_beq_child` and `fileName?_of_getLast`.
-/

namespace PushToTalk.Path

/-- A piece that names an entry of a directory. -/
def IsPlain (piece : String) : Prop := isIdle piece = false ∧ (piece == "..") = false

instance (piece : String) : Decidable (IsPlain piece) :=
  inferInstanceAs (Decidable (isIdle piece = false ∧ (piece == "..") = false))

/-- A plain name is not empty. -/
theorem IsPlain.ne_empty {piece : String} (h : IsPlain piece) : piece ≠ "" := by
  rintro rfl
  exact absurd h.1 (by decide)

/-- A plain name is no dot. -/
theorem IsPlain.ne_dot {piece : String} (h : IsPlain piece) : piece ≠ "." := by
  rintro rfl
  exact absurd h.1 (by decide)

/-- A plain name is a step to the entry of that name. -/
theorem IsPlain.step?_eq {piece : String} (h : IsPlain piece) :
    step? piece = some (.name piece) := by
  simp [step?, h.1, h.2]

instance : EquivBEq Path where
  rfl := beq_refl _
  symm := by
    intro p q h
    rwa [beq_comm]
  trans h k := beq_iff.2 ((beq_iff.1 h).trans (beq_iff.1 k))

/-! ## The pieces in front of an entry -/

/-- The pieces of a path that stay when an entry is added: all but the emptiness behind a slash
at the end. -/
def front (p : Path) : List String :=
  match p.pieces.getLast? with
  | some "" => p.pieces.dropLast
  | _ => p.pieces

/-- An entry stands behind the pieces in front of it. -/
theorem pieces_child (p : Path) (name : String) : (p.child name).pieces = p.front ++ [name] := by
  have hc : (p.child name).pieces = match p.pieces.getLast? with
      | some "" => p.pieces.dropLast ++ [name]
      | _ => p.pieces ++ [name] := rfl
  rw [hc]
  unfold front
  split <;> rfl

/-- Either there is nothing behind a slash at the end, or all the pieces are in front. -/
theorem front_cases (p : Path) :
    (p.pieces = p.front ∧ p.pieces.getLast? ≠ some "") ∨ p.pieces = p.front ++ [""] := by
  by_cases h : p.pieces.getLast? = some ""
  · right
    obtain ⟨init, e⟩ := List.getLast?_eq_some_iff.1 h
    simp [front, e]
  · left
    refine ⟨?_, h⟩
    unfold front
    split
    · next e => exact absurd e h
    · rfl

/-- A path that ends in a plain name keeps all its pieces. -/
theorem front_child {p : Path} {name : String} (h : IsPlain name) :
    (p.child name).front = p.front ++ [name] := by
  rcases front_cases (p.child name) with ⟨e, -⟩ | e
  · rw [← e, pieces_child]
  · rw [pieces_child] at e
    have hl := congrArg List.getLast? e
    simp only [List.getLast?_append, List.getLast?_singleton, Option.or] at hl
    exact absurd (Option.some.inj hl) h.ne_empty

/-! ## Steps -/

/-- The step that a path begins with when more pieces follow the first. -/
def firstStep (first : String) : List Part :=
  if first == "" then [.root] else if first == "." then [.here] else (step? first).toList

/-- The steps of a path, piece by piece: what the first piece stands for, and then the steps of
the others. -/
theorem parts_of_rest {first : String} {rest : List String} (h : rest ≠ [] ∨ first ≠ "") :
    parts ⟨first :: rest⟩ = firstStep first ++ rest.filterMap step? := by
  by_cases hf : first = ""
  · have hr : rest ≠ [] := h.resolve_right fun hn => hn hf
    simp [parts, firstStep, hf, hr]
  · simp [parts, firstStep, hf]

/-- An entry is one step further. -/
theorem parts_child {p : Path} {name : String} (h : IsPlain name) :
    (p.child name).parts = p.parts ++ [.name name] := by
  have hc : p.child name = ⟨p.front ++ [name]⟩ := by rw [← pieces_child]
  rw [hc]
  -- a name that is added to nothing becomes the first piece, which is read in its own way
  cases hf : p.front with
  | nil =>
    have hp : p.parts = [] := by
      unfold parts
      rcases front_cases p with ⟨e, -⟩ | e
      · rw [e, hf]
      · rw [e, hf]
        rfl
    rw [hp]
    simp [parts, h.ne_empty, h.ne_dot, h.step?_eq]
  | cons first rest =>
    have hp : p.parts = firstStep first ++ rest.filterMap step? := by
      rcases front_cases p with ⟨e, hl⟩ | e
      · rw [hf] at e
        rw [show p = ⟨first :: rest⟩ from congrArg Path.mk e, parts_of_rest]
        rw [e] at hl
        by_cases hr : rest = []
        · right
          rintro rfl
          exact hl (by rw [hr]; rfl)
        · exact Or.inl hr
      · rw [hf] at e
        rw [show p = ⟨first :: (rest ++ [""])⟩ from congrArg Path.mk e, parts_of_rest (by simp)]
        simp [step?, isIdle]
    rw [hp, List.cons_append, parts_of_rest (by simp)]
    simp [h.step?_eq]

/-- Behind a path that ends in a plain name, an idle piece names the path itself and two dots name
its parent; neither is an entry. -/
theorem fileName?_child_of_not_plain {p : Path} {name n : String} (hn : IsPlain name)
    (h : ¬ IsPlain n) :
    ((p.child name).child n).fileName? = some name ∨ ((p.child name).child n).fileName? = none := by
  have hc : (p.child name).child n = ⟨(p.front ++ [name]) ++ [n]⟩ := by
    rw [← front_child hn, ← pieces_child]
  -- there is a first piece, so that the steps can be told piece by piece
  have hfirst : ∃ first rest, p.front ++ [name] = first :: rest ∧ (rest ≠ [] ∨ first ≠ "") := by
    cases hf : p.front with
    | nil => exact ⟨name, [], rfl, Or.inr hn.ne_empty⟩
    | cons first rest => exact ⟨first, rest ++ [name], rfl, Or.inl (by simp)⟩
  obtain ⟨first, rest, e, hw⟩ := hfirst
  have hparts : ((p.child name).child n).parts = (p.child name).parts ++ (step? n).toList := by
    have hp : p.child name = ⟨first :: rest⟩ := by rw [← e, ← pieces_child]
    rw [hc, e, List.cons_append, parts_of_rest (by simp), hp, parts_of_rest hw]
    cases hs : step? n <;> simp [hs]
  unfold fileName?
  rw [hparts, parts_child hn]
  cases hi : isIdle n with
  | true =>
    left
    simp [step?, hi]
  | false =>
    right
    have hd : (n == "..") = true := by
      cases hd : n == ".." with
      | true => rfl
      | false => exact absurd ⟨hi, hd⟩ h
    simp [step?, hi, hd]

/-! ## Neighbours -/

/-- A plain name at the end is not trimmed. -/
theorem trimEnd_append {pieces : List String} {name : String} (h : IsPlain name) :
    trimEnd (pieces ++ [name]) = pieces ++ [name] := by
  simp [trimEnd, h.1]

/-- Whoever leaves an entry of an entry is back at that very path. -/
theorem parent?_child {p : Path} {name n : String} (hname : IsPlain name) (hn : IsPlain n) :
    ((p.child name).child n).parent? = some (p.child name) := by
  have hc : (p.child name).child n = ⟨(p.front ++ [name]) ++ [n]⟩ := by
    rw [← front_child hname, ← pieces_child]
  have hp : p.child name = ⟨p.front ++ [name]⟩ := by rw [← pieces_child]
  rw [hc, hp]
  -- the first piece is set apart here too
  cases p.front with
  | nil =>
    have ht : trimEnd [n] = [n] := @trimEnd_append [] n hn
    have hl : trimEnd [n].dropLast = [] := rfl
    simp only [List.nil_append, List.cons_append, parent?, ht, hl]
    simp [hname.ne_empty]
  | cons first rest =>
    have ht : trimEnd ((rest ++ [name]) ++ [n]) = (rest ++ [name]) ++ [n] := trimEnd_append hn
    have hl : trimEnd ((rest ++ [name]) ++ [n]).dropLast = rest ++ [name] := by
      rw [List.dropLast_concat, trimEnd_append hname]
    have hr : rest ++ [name] ≠ [] := by simp
    simp only [List.cons_append, parent?, ht]
    cases hk : (rest ++ [name]) ++ [n] with
    | nil => simp at hk
    | cons a as =>
      rw [hk] at hl
      simp only [hl]

/-- Entries of one directory are the same path only if they have one name. -/
theorem child_beq_child {p q : Path} {m n : String} (hm : IsPlain m) (hn : IsPlain n) :
    (p.child m == q.child n) = true ↔ (p == q) = true ∧ m = n := by
  rw [beq_iff, beq_iff, parts_child hm, parts_child hn]
  constructor
  · intro h
    obtain ⟨hp, hl⟩ := List.append_inj' h rfl
    exact ⟨hp, by simpa using hl⟩
  · rintro ⟨hp, rfl⟩
    rw [hp]

/-! ## File names -/

/-- A plain name at the end of a path is its file name. -/
theorem fileName?_of_getLast {p : Path} {n : String} (hl : p.pieces.getLast? = some n)
    (hn : IsPlain n) : p.fileName? = some n := by
  obtain ⟨front, hp⟩ := List.getLast?_eq_some_iff.1 hl
  have hlast : p.parts.getLast? = some (.name n) := by
    obtain ⟨pieces⟩ := p
    obtain rfl : pieces = front ++ [n] := hp
    cases front with
    | nil => simp [parts, hn.ne_empty, hn.ne_dot, hn.step?_eq]
    | cons first rest =>
      rw [List.cons_append, parts_of_rest (Or.inl (by simp)), List.filterMap_append,
        List.filterMap_cons_some hn.step?_eq, ← List.append_assoc]
      exact List.getLast?_concat
  unfold fileName?
  rw [hlast]

end PushToTalk.Path

namespace PushToTalk.UserId

/-- The user of a file is read off its stem. -/
theorem ofPath_of_stem? {p : Path} {stem : String} (h : p.stem? = some stem) :
    ofPath p = ofStem stem := by
  rw [ofPath, ofRaw, Path.stemText?_raw, h]

/-- A path without a stem is quoted in the error. -/
theorem ofPath_of_nameless {p : Path} (h : p.stem? = none) :
    ofPath p = .error (.nameless p.raw) := by
  rw [ofPath, ofRaw, Path.stemText?_raw, h]

/-- The user of a file only hangs on its name. -/
theorem ofPath_of_fileName {p q : Path} (h : p.fileName? = q.fileName?) {user : UserId}
    (hu : ofPath p = .ok user) : ofPath q = .ok user := by
  have hstem : q.stem? = p.stem? := by
    unfold Path.stem?
    rw [h]
  cases hs : p.stem? with
  | none =>
    rw [ofPath_of_nameless hs] at hu
    cases hu
  | some stem =>
    rw [ofPath_of_stem? (hstem.trans hs), ← ofPath_of_stem? hs]
    exact hu

/-- The user of a file does not hang on how its path is spelled. -/
theorem ofPath_congr {p q : Path} (h : (p == q) = true) {user : UserId}
    (hu : ofPath p = .ok user) : ofPath q = .ok user :=
  ofPath_of_fileName (by unfold Path.fileName?; rw [Path.beq_iff.1 h]) hu

end PushToTalk.UserId
