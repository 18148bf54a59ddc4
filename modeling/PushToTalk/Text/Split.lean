/-
  Splitting a text at a separator, and joining the pieces again.

  A text is a list here, of characters or, where nothing says that there are characters, of bytes.

  1. **Everywhere**: `split` takes a text apart at every separator and `join` puts the pieces
     together again.  The two are inverse to each other, `join_split` for any text and `split_join`
     for pieces that do not contain the separator.

  2. **Once**: a text is divided at the first of several marks (`divide_append`) or at the last
     mark that has something in front of it (`divideLast`), as file names are.
-/

namespace PushToTalk.Text

variable {α : Type}

/-- The pieces between the separators; one more than there are separators. -/
def split [DecidableEq α] (sep : α) : List α → List (List α)
  | [] => [[]]
  | c :: rest =>
    if c = sep then [] :: split sep rest
    else match split sep rest with
      | [] => [[c]]
      | piece :: more => (c :: piece) :: more

/-- The pieces with the separator between them. -/
def join (sep : α) : List (List α) → List α
  | [] => []
  | [piece] => piece
  | piece :: more => piece ++ sep :: join sep more

/-- There is always a piece, if only an empty one. -/
theorem split_ne_nil [DecidableEq α] (sep : α) (s : List α) : split sep s ≠ [] := by
  cases s with
  | nil => simp [split]
  | cons c rest =>
    unfold split
    split
    · simp
    · split <;> simp

/-- A separator stands behind every piece but the last. -/
theorem join_cons {sep : α} {piece : List α} {more : List (List α)} (h : more ≠ []) :
    join sep (piece :: more) = piece ++ sep :: join sep more := by
  cases more with
  | nil => exact absurd rfl h
  | cons _ _ => rfl

/-- No piece contains the separator. -/
theorem not_mem_of_mem_split [DecidableEq α] {sep : α} {s piece : List α}
    (h : piece ∈ split sep s) : sep ∉ piece := by
  induction s generalizing piece with
  | nil =>
    obtain rfl := List.mem_singleton.1 h
    exact List.not_mem_nil
  | cons c rest ih =>
    unfold split at h
    split at h
    · rcases List.mem_cons.1 h with rfl | h
      · exact List.not_mem_nil
      · exact ih h
    · next hc =>
      split at h
      · obtain rfl := List.mem_singleton.1 h
        exact fun hm => hc (List.mem_singleton.1 hm).symm
      · next first more hs =>
        rw [hs] at ih
        rcases List.mem_cons.1 h with rfl | h
        · rw [List.mem_cons, not_or]
          exact ⟨Ne.symm hc, ih List.mem_cons_self⟩
        · exact ih (List.mem_cons_of_mem _ h)

/-- Joining adds nothing but separators. -/
theorem mem_join {sep c : α} {pieces : List (List α)} (h : c ∈ join sep pieces) :
    c = sep ∨ ∃ piece ∈ pieces, c ∈ piece := by
  induction pieces with
  | nil => exact absurd h List.not_mem_nil
  | cons piece more ih =>
    cases more with
    | nil => exact Or.inr ⟨piece, List.mem_cons_self, h⟩
    | cons next others =>
      rw [join_cons (by simp)] at h
      rcases List.mem_append.1 h with h | h
      · exact Or.inr ⟨piece, List.mem_cons_self, h⟩
      · rcases List.mem_cons.1 h with h | h
        · exact Or.inl h
        · rcases ih h with h | ⟨other, hother, h⟩
          · exact Or.inl h
          · exact Or.inr ⟨other, List.mem_cons_of_mem _ hother, h⟩

/-- Joining the pieces of a text gives the text. -/
theorem join_split [DecidableEq α] (sep : α) (s : List α) : join sep (split sep s) = s := by
  induction s with
  | nil => rfl
  | cons c rest ih =>
    unfold split
    split
    · next h => rw [join_cons (split_ne_nil sep rest), ih, h]; rfl
    · next h =>
      cases hs : split sep rest with
      | nil => exact absurd hs (split_ne_nil sep rest)
      | cons piece more =>
        rw [hs] at ih
        cases more with
        | nil => simp only [join] at ih ⊢; rw [ih]
        | cons _ _ =>
          rw [join_cons (by simp)] at ih ⊢
          rw [List.cons_append, ih]

/-- Characters in front of the first separator belong to the first piece. -/
theorem split_append [DecidableEq α] {sep : α} {piece : List α} (h : sep ∉ piece)
    (rest : List α) : split sep (piece ++ sep :: rest) = piece :: split sep rest := by
  induction piece with
  | nil => simp [split]
  | cons c more ih =>
    have hc : ¬ c = sep := fun e => h (e ▸ List.mem_cons_self)
    rw [List.cons_append, split, if_neg hc, ih (fun m => h (List.mem_cons_of_mem _ m))]

/-- Without a separator a text is one piece. -/
theorem split_of_not_mem [DecidableEq α] {sep : α} {piece : List α} (h : sep ∉ piece) :
    split sep piece = [piece] := by
  induction piece with
  | nil => rfl
  | cons c more ih =>
    have hc : ¬ c = sep := fun e => h (e ▸ List.mem_cons_self)
    rw [split, if_neg hc, ih (fun m => h (List.mem_cons_of_mem _ m))]

/-- Pieces that do not contain the separator are found again after joining. -/
theorem split_join [DecidableEq α] {sep : α} {pieces : List (List α)} (hne : pieces ≠ [])
    (h : ∀ piece ∈ pieces, sep ∉ piece) : split sep (join sep pieces) = pieces := by
  induction pieces with
  | nil => exact absurd rfl hne
  | cons piece more ih =>
    cases more with
    | nil => exact split_of_not_mem (h piece List.mem_cons_self)
    | cons next others =>
      rw [join_cons (by simp), split_append (h piece List.mem_cons_self),
        ih (by simp) (fun p hp => h p (List.mem_cons_of_mem _ hp))]

/-! ## Dividing at a mark -/

/-- A text that a mark does not stand in goes on at every character. -/
theorem goesOn_of_not_mem [DecidableEq α] {mark : α} {cs : List α} (h : mark ∉ cs) :
    ∀ c ∈ cs, (c != mark) = true := by
  intro c hc
  rw [bne_iff_ne]
  rintro rfl
  exact h hc

/-- A text whose front goes on and whose rest does not is divided between the two. -/
theorem divide_append {goesOn : α → Bool} {front : List α}
    (hfront : ∀ c ∈ front, goesOn c = true) (rest : List α)
    (hrest : ∀ c ∈ rest.head?, goesOn c = false) :
    (front ++ rest).takeWhile goesOn = front ∧ (front ++ rest).dropWhile goesOn = rest := by
  rw [List.takeWhile_append_of_pos hfront, List.dropWhile_append_of_pos hfront]
  cases rest with
  | nil => exact ⟨List.append_nil front, rfl⟩
  | cons c more =>
    have hc : ¬ goesOn c = true := by simp [hrest c rfl]
    rw [List.takeWhile_cons, if_neg hc, List.dropWhile_cons, if_neg hc, List.append_nil]
    exact ⟨rfl, rfl⟩

/-- Divides a name at its last mark; a mark in front of everything does not count. -/
def divideLast [DecidableEq α] (mark : α) (name : List α) : List α × Option (List α) :=
  let last := name.reverse.takeWhile (· != mark)
  let front := (name.reverse.drop (last.length + 1)).reverse
  if last.length = name.length || front.isEmpty then (name, none)
  else (front, some last.reverse)

/-- The last mark divides a name, if something is in front of it. -/
theorem divideLast_append [DecidableEq α] {mark : α} {front ext : List α} (hext : mark ∉ ext) :
    divideLast mark (front ++ mark :: ext) =
      if front = [] then (mark :: ext, none) else (front, some ext) := by
  -- Seen from its end, the name goes on up to its last mark: that is how the division finds it.
  have hreverse : mark ∉ ext.reverse := by rwa [List.mem_reverse]
  have hlast := (divide_append (goesOn_of_not_mem hreverse) (mark :: front.reverse)
    (by simp)).1
  have hwhole : (front ++ mark :: ext).reverse = ext.reverse ++ mark :: front.reverse := by simp
  have hshorter : ¬ ext.length = front.length + (ext.length + 1) := by omega
  have hfront : (ext.reverse ++ mark :: front.reverse).drop (ext.length + 1) = front.reverse := by
    rw [List.drop_append, List.length_reverse, Nat.add_sub_cancel_left,
      List.drop_eq_nil_of_le (by simp)]
    rfl
  unfold divideLast
  simp only [hwhole, hlast, hfront, List.length_reverse, List.length_append, List.length_cons,
    List.reverse_reverse, hshorter, decide_false, Bool.false_or, List.isEmpty_iff]
  split
  · next he => rw [he, List.nil_append]
  · rfl

/-- Without a mark there is nothing behind it. -/
theorem divideLast_of_not_mem [DecidableEq α] {mark : α} {name : List α} (h : mark ∉ name) :
    divideLast mark name = (name, none) := by
  have hreverse : mark ∉ name.reverse := by rwa [List.mem_reverse]
  have hlast := (divide_append (goesOn_of_not_mem hreverse) [] (by simp)).1
  rw [List.append_nil] at hlast
  unfold divideLast
  simp only [hlast, List.length_reverse, decide_true, Bool.true_or, if_true]

end PushToTalk.Text
