import PushToTalk.Proofs.Url.Percent
import PushToTalk.Url.Segments

/-
  Paths read back: which segments an address keeps as they are.

  The path of a request is a list of segments, among them the name of a user, a topic and the id of
  a file.  The library for addresses puts them down one after the other, and it does more than to
  write them: it leaves out segments of one dot or two, it drops tabs and line breaks, and what
  looks like two dots after that takes a step upwards, as in the path of a directory.  So not every
  list of segments comes back from its path.  This module says which do, and what happens to a
  segment in front of one that does not.

  1. **Segments** — an intact segment is one that is kept as it is (`Intact`): not one or two dots,
     and without tabs and line breaks.  It is read back from its spelling.

  2. **What a path can spell** — a step upwards takes whole pieces away, so every piece of a path
     spells an intact segment (`isSpelled_pieces`).  Whatever is read from a path is therefore
     intact (`intact_of_read?_path`).

  3. **What comes back** — intact segments behind a first one that is not empty are put down one by
     one (`pieces_of_intact`), and a slash inside a segment is escaped, so they are found again
     (`read?_path_of_intact`).

  4. **What stays** — whatever stands before and behind it, an intact segment keeps its piece unless
     the segment behind it climbs: two dots with a tab or a line break among them
     (`pieces_of_stays`, `pieces_of_climbs`).

  5. **Letters and digits** are their own spelling (`write_of_isAlphanum`), which matters for
     topics.

  The first segment must not be empty, because an empty piece at the beginning is taken for the
  empty path.

  Main statement: `read?_path_eq_some_iff`, the second and third part together.
-/

namespace PushToTalk.Url.Segments

variable {s : String} {piece : List Char} {ps : List (List Char)} {segments : List String}

/-! ## Segments -/

/-- A segment that an address keeps as it is. Both conditions can be computed. -/
def Intact (s : String) : Prop := isSkipped s = false ∧ s.toList.any isDropped = false

instance : Decidable (Intact s) := inferInstanceAs (Decidable (_ ∧ _))

/-- What an address keeps of the characters of a segment. -/
def kept (s : String) : String := String.ofList (s.toList.filter fun c => !isDropped c)

/-- What is dropped does not show in the spelling. -/
theorem write_kept (s : String) : write (kept s).toList = write s.toList := by
  simp only [write, kept, String.toList_ofList, List.filter_filter, Bool.and_self]

/-- A spelling gives what was kept of the segment. -/
theorem decodeText?_write (s : String) : decodeText? (write s.toList) = some (kept s) := by
  rw [write, decodeText?_encode (by decide), kept]

/-- Of an intact segment everything is kept. -/
theorem Intact.kept (h : Intact s) : kept s = s := by
  have hall : s.toList.filter (fun c => !isDropped c) = s.toList := by
    rw [List.filter_eq_self]
    intro c hc
    rw [Bool.not_eq_true']
    exact Bool.eq_false_iff.2 (List.any_eq_false.1 h.2 c hc)
  rw [Segments.kept, hall, String.ofList_toList]

/-- An intact segment is read back from its spelling. -/
theorem Intact.decodeText?_write (h : Intact s) : decodeText? (write s.toList) = some s := by
  rw [Segments.decodeText?_write, h.kept]

/-- Only one and two dots are spelled like them. -/
theorem Intact.write_ne_dots (h : Intact s) :
    write s.toList ≠ "..".toList ∧ write s.toList ≠ ".".toList := by
  have hone : write ".".toList = ".".toList := by decide +kernel
  have htwo : write "..".toList = "..".toList := by decide +kernel
  -- a segment with the spelling of dots would be read back as dots
  have hread := h.decodeText?_write
  constructor
  · intro heq
    rw [heq, ← htwo, Segments.decodeText?_write] at hread
    obtain rfl : Segments.kept ".." = s := Option.some.inj hread
    exact absurd h.1 (by decide +kernel)
  · intro heq
    rw [heq, ← hone, Segments.decodeText?_write] at hread
    obtain rfl : Segments.kept "." = s := Option.some.inj hread
    exact absurd h.1 (by decide +kernel)

/-- Only the empty segment has an empty spelling. -/
theorem Intact.write_ne_nil (h : Intact s) (hne : s ≠ "") : write s.toList ≠ [] := by
  intro heq
  have hempty : write "".toList = [] := by decide +kernel
  have hread := h.decodeText?_write
  rw [heq, ← hempty, Segments.decodeText?_write] at hread
  exact hne (Option.some.inj hread).symm

/-- A text of a class of characters without dots, tabs and line breaks is intact. -/
theorem intact_of_forall {p : Char → Bool} (h : ∀ c ∈ s.toList, p c = true)
    (hmarks : ".\t\n\r".toList.any p = false) : Intact s := by
  have hnot : ∀ c ∈ ".\t\n\r".toList, c ∉ s.toList := by
    intro c hc hm
    exact List.any_eq_false.1 hmarks c hc (h c hm)
  constructor
  · rw [Bool.eq_false_iff]
    intro hskipped
    rcases Bool.or_eq_true_iff.1 hskipped with hdots | hdots
    · exact hnot '.' (by decide) (by rw [eq_of_beq hdots]; decide)
    · exact hnot '.' (by decide) (by rw [eq_of_beq hdots]; decide)
  · rw [List.any_eq_false]
    intro c hc hdropped
    have hmark : c ∈ ".\t\n\r".toList := by
      rcases (by simpa [isDropped, or_assoc] using hdropped : c = '\t' ∨ c = '\n' ∨ c = '\r')
        with rfl | rfl | rfl <;> decide
    exact hnot c hmark hc

/-! ## Pieces -/

/-- Every piece spells an intact segment. -/
def IsSpelled (ps : List (List Char)) : Prop := ∀ p ∈ ps, ∃ s, Intact s ∧ p = write s.toList

/-- No pieces at all. -/
theorem isSpelled_nil : IsSpelled [] := fun _ hp => absurd hp List.not_mem_nil

/-- An empty piece spells the empty segment. -/
theorem isSpelled_push_empty (h : IsSpelled ps) : IsSpelled (ps ++ [[]]) := by
  intro p hp
  rcases List.mem_append.1 hp with hp | hp
  · exact h p hp
  · obtain rfl := List.mem_singleton.1 hp
    exact ⟨"", by decide +kernel, by decide +kernel⟩

/-- A step upwards leaves an empty piece in the place of the last one, or at the end. -/
theorem isSpelled_goUp (h : IsSpelled ps) : IsSpelled (goUp ps) := by
  unfold goUp
  split
  · exact isSpelled_push_empty isSpelled_nil
  · split
    · exact isSpelled_push_empty h
    · apply isSpelled_push_empty
      intro p hp
      exact h p (List.dropLast_subset _ hp)

/-- What a segment is put down behind: the empty path has nothing. -/
def front (ps : List (List Char)) : List (List Char) := if ps == [[]] then [] else ps

/-- Pieces that begin with one that is not empty are not those of the empty path. -/
theorem front_cons (h : piece ≠ []) : front (piece :: ps) = piece :: ps := by
  unfold front
  rw [if_neg]
  simp [h]

/-- What putting a piece down means: two dots are a step upwards, one dot is an empty piece, and
anything else goes to the end. -/
theorem put_eq (ps : List (List Char)) (piece : List Char) :
    put ps piece = if piece = "..".toList then goUp (front ps)
      else if piece = ".".toList then front ps ++ [[]] else front ps ++ [piece] := by
  simp only [put, front, beq_iff_eq]

/-- Leaving out the pieces of the empty path changes nothing in this. -/
theorem isSpelled_front (h : IsSpelled ps) : IsSpelled (front ps) := by
  unfold front
  split
  · exact isSpelled_nil
  · exact h

/-- Whatever segment is put down, the pieces spell intact segments after it. This is the step of
the induction on segments. -/
theorem isSpelled_put (h : IsSpelled ps) (s : String) : IsSpelled (put ps (write s.toList)) := by
  rw [put_eq]
  split
  · exact isSpelled_goUp (isSpelled_front h)
  · next htwo =>
    split
    · exact isSpelled_push_empty (isSpelled_front h)
    · next hone =>
      intro p hp
      rcases List.mem_append.1 hp with hp | hp
      · exact isSpelled_front h p hp
      · -- What is put down has lost its tabs and line breaks, and is not the dots either.
        obtain rfl := List.mem_singleton.1 hp
        refine ⟨kept s, ⟨?_, ?_⟩, (write_kept s).symm⟩
        · rw [Bool.eq_false_iff]
          intro hskipped
          rw [← write_kept] at hone htwo
          rcases Bool.or_eq_true_iff.1 hskipped with hdots | hdots
          · rw [eq_of_beq hdots] at hone
            exact hone (by decide +kernel)
          · rw [eq_of_beq hdots] at htwo
            exact htwo (by decide +kernel)
        · rw [List.any_eq_false]
          intro c hc
          rw [kept, String.toList_ofList] at hc
          simpa using (List.mem_filter.1 hc).2

/-- A step upwards never takes everything away. -/
theorem goUp_ne_nil : goUp ps ≠ [] := by
  unfold goUp
  split
  · simp
  · split <;> simp

/-- There is a piece after every segment. -/
theorem put_ne_nil : put ps piece ≠ [] := by
  rw [put_eq]
  split
  · exact goUp_ne_nil
  · split <;> simp

/-- Every piece of a path spells an intact segment, and there is one at least. -/
theorem isSpelled_pieces (segments : List String) :
    IsSpelled (pieces segments) ∧ pieces segments ≠ [] := by
  have hstart : IsSpelled [[]] := isSpelled_push_empty isSpelled_nil
  unfold pieces
  -- Whatever segments are left and whatever they are put down behind, all pieces stay spelled.
  generalize segments.filter (fun s => !isSkipped s) = left
  generalize hps : [[]] = ps at hstart
  have hne : ps ≠ [] := by simp [← hps]
  clear hps
  induction left generalizing ps with
  | nil => exact ⟨hstart, hne⟩
  | cons s rest ih => exact ih _ (isSpelled_put hstart s) put_ne_nil

/-- An intact segment is put down as its own piece. -/
theorem put_intact (h : Intact s) : put ps (write s.toList) = front ps ++ [write s.toList] := by
  obtain ⟨htwo, hone⟩ := h.write_ne_dots
  rw [put_eq, if_neg htwo, if_neg hone]

/-- Intact segments are put down one behind the other, behind a first piece that is not empty. -/
theorem foldl_put_intact (h : ∀ t ∈ segments, Intact t) (hps : piece ≠ []) :
    segments.foldl (fun ps s => put ps (write s.toList)) (piece :: ps) =
      piece :: ps ++ segments.map fun s => write s.toList := by
  induction segments generalizing ps with
  | nil => rw [List.foldl_nil, List.map_nil, List.append_nil]
  | cons s rest ih =>
    rw [List.foldl_cons, put_intact (h s List.mem_cons_self), front_cons hps, List.cons_append,
      ih fun t ht => h t (List.mem_cons_of_mem _ ht), List.map_cons, List.cons_append,
      List.append_assoc, List.singleton_append, List.cons_append]

/-- Intact segments are the pieces of their path, one for one. -/
theorem pieces_of_intact (hs : s ≠ "") (h : ∀ t ∈ s :: segments, Intact t) :
    pieces (s :: segments) = (s :: segments).map fun s => write s.toList := by
  have hall : (s :: segments).filter (fun s => !isSkipped s) = s :: segments := by
    rw [List.filter_eq_self]
    intro t ht
    rw [(h t ht).1, Bool.not_false]
  have hfirst := h s List.mem_cons_self
  rw [pieces, hall, List.foldl_cons, put_intact hfirst]
  show segments.foldl (fun ps s => put ps (write s.toList)) (write s.toList :: []) = _
  exact foldl_put_intact (fun t ht => h t (List.mem_cons_of_mem _ ht)) (hfirst.write_ne_nil hs)

/-! ## Segments that stay -/

/-- Two dots with tabs or line breaks among them: where such a segment is put down, the address
takes a step upwards. -/
def Climbs (s : String) : Prop := s ≠ ".." ∧ kept s = ".."

instance : Decidable (Climbs s) := inferInstanceAs (Decidable (_ ∧ _))

/-- The spelling is that of two dots exactly if two dots are kept. -/
theorem write_eq_dots_iff : write s.toList = "..".toList ↔ kept s = ".." := by
  have htwo : write "..".toList = "..".toList := by decide +kernel
  constructor
  · intro heq
    have hread := decodeText?_write s
    rw [heq, ← htwo, decodeText?_write] at hread
    have hdots : kept ".." = ".." := by decide +kernel
    rw [← Option.some.inj hread, hdots]
  · intro hkept
    rw [← write_kept, hkept, htwo]

/-- What is put down behind the first piece does not take it away. -/
theorem exists_put (hps : ps ≠ []) (hpiece : piece ≠ []) (spelled : List Char) :
    ∃ more, put (piece :: ps) spelled = piece :: more := by
  rw [put_eq, front_cons hpiece]
  split
  · unfold goUp
    split
    · next hnone => simp at hnone
    · split
      · exact ⟨_, rfl⟩
      · exact ⟨_, by rw [List.dropLast_cons_of_ne_nil hps, List.cons_append]⟩
  · split <;> exact ⟨_, rfl⟩

/-- Segments that do not climb leave the pieces before them. -/
theorem exists_foldl_put (ps : List (List Char)) (h : ∀ t ∈ segments, kept t ≠ "..")
    (hpiece : piece ≠ []) :
    ∃ back, segments.foldl (fun ps s => put ps (write s.toList)) (piece :: ps) =
      piece :: ps ++ back := by
  induction segments generalizing ps with
  | nil => exact ⟨[], by rw [List.foldl_nil, List.append_nil]⟩
  | cons s rest ih =>
    -- a segment that does not climb puts down one piece more, empty or not
    have hstays : ∃ last, put (piece :: ps) (write s.toList) = piece :: (ps ++ [last]) := by
      rw [put_eq, if_neg (mt write_eq_dots_iff.1 (h s List.mem_cons_self)), front_cons hpiece]
      split
      · exact ⟨[], rfl⟩
      · exact ⟨write s.toList, rfl⟩
    obtain ⟨last, hlast⟩ := hstays
    obtain ⟨back, hback⟩ :=
      ih (ps ++ [last]) fun t ht => h t (List.mem_cons_of_mem _ ht)
    refine ⟨last :: back, ?_⟩
    rw [List.foldl_cons, hlast, hback]
    simp

/-- The pieces of more segments are put down behind those of the first ones. -/
theorem pieces_append (before after : List String) : pieces (before ++ after) =
    (after.filter fun s => !isSkipped s).foldl (fun ps s => put ps (write s.toList))
      (pieces before) := by
  rw [pieces, List.filter_append, List.foldl_append, ← pieces]

variable {before after : List String} {t : String} {more : List (List Char)}

/-- An intact segment adds its own piece. -/
theorem pieces_intact_behind (hbefore : pieces before = piece :: more) (hpiece : piece ≠ [])
    (ht : Intact t) : pieces (before ++ [t]) = piece :: (more ++ [write t.toList]) := by
  rw [pieces_append, hbefore, List.filter_cons_of_pos (by rw [ht.1]; rfl)]
  exact (put_intact ht).trans (by rw [front_cons hpiece, List.cons_append])

/-- Of the segments that do not climb, none that is put down spells two dots. -/
theorem kept_ne_dots (h : ∀ s ∈ after, ¬ Climbs s) :
    ∀ s ∈ after.filter (fun s => !isSkipped s), kept s ≠ ".." := by
  intro s hs hdots
  obtain ⟨hmem, hput⟩ := List.mem_filter.1 hs
  refine h s hmem ⟨?_, hdots⟩
  rintro rfl
  exact absurd hput (by decide)

/-- An intact segment keeps its piece if no later segment climbs. -/
theorem pieces_of_stays (hbefore : pieces before = piece :: more) (hpiece : piece ≠ [])
    (ht : Intact t) (hafter : ∀ s ∈ after, ¬ Climbs s) :
    ∃ back, pieces (before ++ t :: after) = pieces before ++ write t.toList :: back := by
  obtain ⟨back, hback⟩ :=
    exists_foldl_put (more ++ [write t.toList]) (kept_ne_dots hafter) hpiece
  refine ⟨back, ?_⟩
  rw [List.append_cons, pieces_append, pieces_intact_behind hbefore hpiece ht, hback, hbefore]
  simp

/-- A segment that climbs takes the piece before it away, unless that is the name of a disk, and
leaves an empty one in its place. -/
theorem pieces_of_climbs (hbefore : pieces before = piece :: more) (hpiece : piece ≠ [])
    (ht : Intact t) (hdisk : isDisk (write t.toList) = false) (hs : Climbs s)
    (hafter : ∀ s ∈ after, ¬ Climbs s) :
    ∃ back, pieces (before ++ t :: s :: after) = pieces before ++ [] :: back := by
  have hput : isSkipped s = false := by
    rw [Bool.eq_false_iff]
    intro hskipped
    rcases Bool.or_eq_true_iff.1 hskipped with hdot | hdots
    · obtain ⟨-, hkept⟩ := hs
      rw [eq_of_beq hdot] at hkept
      exact absurd hkept (by decide +kernel)
    · exact hs.1 (eq_of_beq hdots)
  -- the step upwards is made from the piece of the intact segment
  have hup : put (piece :: (more ++ [write t.toList])) (write s.toList) =
      piece :: (more ++ [[]]) := by
    have hlast : piece :: (more ++ [write t.toList]) = (piece :: more) ++ [write t.toList] := rfl
    rw [put_eq, if_pos (write_eq_dots_iff.2 hs.2), front_cons hpiece, hlast, goUp,
      List.getLast?_concat]
    dsimp only
    rw [hdisk, if_neg Bool.false_ne_true, List.dropLast_concat, List.cons_append]
  obtain ⟨back, hback⟩ := exists_foldl_put (more ++ [[]]) (kept_ne_dots hafter) hpiece
  refine ⟨back, ?_⟩
  rw [List.append_cons, pieces_append, pieces_intact_behind hbefore hpiece ht,
    List.filter_cons_of_pos (by rw [hput]; rfl), List.foldl_cons, hup, hback, hbefore]
  simp

/-! ## Letters and digits -/

/-- Letters and digits here are those of ASCII. -/
theorem toNat_lt_of_isAlphanum {c : Char} (h : c.isAlphanum = true) : c.toNat < 128 := by
  have hupto : ∀ {last : Char}, c.val ≤ last.val → last.toNat < 128 → c.toNat < 128 :=
    fun hle hlast => Nat.lt_of_le_of_lt (UInt32.le_iff_toNat_le.1 hle) hlast
  rcases Bool.or_eq_true_iff.1 h with halpha | hdigit
  · rcases Bool.or_eq_true_iff.1 halpha with hupper | hlower
    · have hle : c.val ≤ 'Z'.val := (of_decide_eq_true hupper).2
      exact hupto hle (by decide)
    · have hle : c.val ≤ 'z'.val := of_decide_eq_true (Bool.and_eq_true_iff.1 hlower).2
      exact hupto hle (by decide)
  · have hle : c.val ≤ '9'.val := of_decide_eq_true (Bool.and_eq_true_iff.1 hdigit).2
    exact hupto hle (by decide)

/-- None of them is escaped in a path. There are 128 characters to be looked at. -/
theorem isEscaped_of_isAlphanum {c : Char} (h : c.isAlphanum = true) :
    isEscaped (UInt8.ofNat c.toNat) = false := by
  have hall : ∀ n ∈ List.range 128, (Char.ofNat n).isAlphanum = true →
      isEscaped (UInt8.ofNat n) = false := by
    decide +kernel
  apply hall c.toNat (List.mem_range.2 (toNat_lt_of_isAlphanum h))
  rwa [Char.ofNat_toNat]

/-- ASCII letters and digits are their own spelling. -/
theorem write_of_isAlphanum (h : ∀ c ∈ s.toList, c.isAlphanum = true) :
    write s.toList = s.toList := by
  have hintact : Intact s := intact_of_forall h (by decide)
  have hkept : s.toList.filter (fun c => !isDropped c) = s.toList := by
    have hsame := congrArg String.toList hintact.kept
    rwa [kept, String.toList_ofList] at hsame
  rw [write, hkept]
  apply encode_of_forall
  intro c hc
  exact ⟨toNat_lt_of_isAlphanum (h c hc), isEscaped_of_isAlphanum (h c hc)⟩

/-! ## Paths -/

/-- The pieces of a path are what stands between its slashes. -/
theorem split_join_pieces (segments : List String) :
    Text.split '/' (Text.join '/' (pieces segments)) = pieces segments := by
  obtain ⟨hspelled, hne⟩ := isSpelled_pieces segments
  apply Text.split_join hne
  intro p hp
  obtain ⟨s, -, rfl⟩ := hspelled p hp
  exact not_mem_encode (by decide +kernel) _

/-- The pieces of a path are found again. -/
theorem read?_path (segments : List String) :
    read? (path segments) = (pieces segments).mapM decodeText? := by
  rw [path, read?, split_join_pieces]

/-- What is read from a path is intact. -/
theorem intact_of_read?_path {found : List String} (h : read? (path segments) = some found) :
    ∀ s ∈ found, Intact s := by
  rw [read?_path] at h
  have hspelled := (isSpelled_pieces segments).1
  generalize pieces segments = ps at h hspelled
  induction ps generalizing found with
  | nil =>
    cases h
    exact fun s hs => absurd hs List.not_mem_nil
  | cons p rest ih =>
    obtain ⟨t, ht, rfl⟩ := hspelled p List.mem_cons_self
    rw [List.mapM_cons, ht.decodeText?_write, Option.bind_eq_bind, Option.bind_some] at h
    obtain ⟨others, hothers, heq⟩ := Option.bind_eq_some_iff.1 h
    cases heq
    intro s hs
    rcases List.mem_cons.1 hs with rfl | hs
    · exact ht
    · exact ih hothers (fun p hp => hspelled p (List.mem_cons_of_mem _ hp)) s hs

/-- Intact segments are read back from their path. -/
theorem read?_path_of_intact (hs : s ≠ "") (h : ∀ t ∈ s :: segments, Intact t) :
    read? (path (s :: segments)) = some (s :: segments) := by
  rw [read?_path, pieces_of_intact hs h]
  exact mapM_map_eq_some fun t ht => (h t ht).decodeText?_write

/-- A path gives back its segments if all of them are intact, and only then. -/
theorem read?_path_eq_some_iff (hs : s ≠ "") :
    read? (path (s :: segments)) = some (s :: segments) ↔ ∀ t ∈ s :: segments, Intact t :=
  ⟨intact_of_read?_path, read?_path_of_intact hs⟩

/-- A path has no marks but slashes. -/
theorem not_mem_path {mark : Char} (hslash : mark ≠ '/') (h : shows isEscaped mark = false) :
    mark ∉ path segments := by
  intro hm
  rcases List.mem_cons.1 hm with hm | hm
  · exact hslash hm
  · rcases Text.mem_join hm with hm | ⟨p, hp, hm⟩
    · exact hslash hm
    · obtain ⟨s, -, rfl⟩ := (isSpelled_pieces segments).1 p hp
      exact not_mem_encode h _ hm

end PushToTalk.Url.Segments
