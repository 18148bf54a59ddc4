import PushToTalk.Disk
import PushToTalk.Proofs.Table

/-
  The disk as a tree.

  A disk is a table of places with what stands at each.  Not every table is a file system: in a file
  system whatever stands somewhere stands in a directory, and each place is taken once.  `IsTree`
  says this of a disk, and everything about walks and directories rests on it.  What can be read off
  the entries is read off here, so that no later proof looks into the table.

  1. **Places** — the root is always a directory and stands in no table; any other place is looked
     up.

  2. **Changes** — one equation for each of the four: an entry is set, an entry is removed,
     everything from a place on is removed, everything below a place is removed.  Each tells what
     stands anywhere afterwards, by the place alone.

  3. **Entries** — those of a directory are what stands right below it (`mem_entriesAt_iff`).  This
     takes a tree, since a place that is in the table twice would be listed twice.

  4. **Trees stay trees** — under each of the four changes.  Two of them need a condition: a node is
     set in a directory and is one itself, or no directory is replaced by it; and an entry is
     removed with nothing below it.

  Main statements: `at?_set`, `at?_clear`, `at?_clearBelow`, `at?_clearInside` and
  `mem_entriesAt_iff`.
-/

namespace PushToTalk.Disk

variable {d : Disk} {place : Place} {name : String} {node : Node}

/-- Every place is taken once, and what stands there stands in a directory. -/
structure IsTree (d : Disk) : Prop where
  keys : d.nodes.keys.Nodup
  parent : ∀ place name node, d.at? (place ++ [name]) = some node →
    d.at? place = some .directory

/-- The root is a directory, whatever the table says. -/
theorem at?_nil (d : Disk) : d.at? [] = some .directory := rfl

/-- Below the root the table says what stands there. -/
theorem at?_concat (d : Disk) (place : Place) (name : String) :
    d.at? (place ++ [name]) = d.nodes.get? (place ++ [name]) := by
  have h : (place ++ [name]).isEmpty = false := by simp
  unfold at?
  rw [h]
  rfl

/-- The test for a directory is what it says. -/
theorem isDirectoryAt_iff : d.isDirectoryAt place = true ↔ d.at? place = some .directory := by
  unfold isDirectoryAt
  split
  · next h => simp [h]
  · next h =>
    constructor
    · intro hf
      cases hf
    · intro hd
      exact absurd hd h

/-! ## Changes -/

/-- After an entry is set it stands at its place, and everything else where it stood. -/
theorem at?_set (d : Disk) (place : Place) (name : String) (node : Node) (v : Place) :
    (d.set (place ++ [name]) node).at? v = if v = place ++ [name] then some node else d.at? v := by
  rcases List.eq_nil_or_concat v with rfl | ⟨p, n, rfl⟩
  · simp [at?_nil]
  · rw [List.concat_eq_append, at?_concat, at?_concat]
    show (d.nodes.put (place ++ [name]) node).get? (p ++ [n]) = _
    rw [Table.get?_put]
    by_cases h : p ++ [n] = place ++ [name]
    · rw [h]
      simp
    · have hne : (place ++ [name] == p ++ [n]) = false :=
        beq_eq_false_iff_ne.2 fun he => h he.symm
      rw [hne, if_neg h]
      rfl

/-- After an entry is removed nothing stands at its place, and everything else where it stood. -/
theorem at?_clear (d : Disk) (place : Place) (name : String) (v : Place) :
    (d.clear (place ++ [name])).at? v = if v = place ++ [name] then none else d.at? v := by
  rcases List.eq_nil_or_concat v with rfl | ⟨p, n, rfl⟩
  · simp [at?_nil]
  · rw [List.concat_eq_append, at?_concat, at?_concat]
    show (d.nodes.erase (place ++ [name])).get? (p ++ [n]) = _
    rw [Table.get?_erase]
    by_cases h : p ++ [n] = place ++ [name]
    · rw [h]
      simp
    · have hne : (place ++ [name] == p ++ [n]) = false :=
        beq_eq_false_iff_ne.2 fun he => h he.symm
      rw [hne, if_neg h]
      rfl

/-- After a tree is taken away nothing stands at its place or below, and everything else where it
stood. -/
theorem at?_clearBelow (d : Disk) (place : Place) (name : String) (v : Place) :
    (d.clearBelow (place ++ [name])).at? v =
      if place ++ [name] <+: v then none else d.at? v := by
  rcases List.eq_nil_or_concat v with rfl | ⟨p, n, rfl⟩
  · simp [at?_nil]
  · rw [List.concat_eq_append, at?_concat, at?_concat]
    show (⟨d.nodes.entries.filter fun e => !((place ++ [name]).isPrefixOf e.1)⟩ :
      Table Place Node).get? (p ++ [n]) = _
    rw [Table.get?_filter fun v => !((place ++ [name]).isPrefixOf v)]
    by_cases h : place ++ [name] <+: p ++ [n]
    · rw [if_pos h, List.isPrefixOf_iff_prefix.2 h]
      rfl
    · rw [if_neg h]
      cases hp : (place ++ [name]).isPrefixOf (p ++ [n]) with
      | true => exact absurd (List.isPrefixOf_iff_prefix.1 hp) h
      | false => rfl

/-- After a directory is emptied nothing stands below it, and everything else where it stood, the
directory included. -/
theorem at?_clearInside (d : Disk) (place v : Place) :
    (d.clearInside place).at? v = if place <+: v ∧ v ≠ place then none else d.at? v := by
  rcases List.eq_nil_or_concat v with rfl | ⟨p, n, rfl⟩
  · have h : ¬ (place <+: [] ∧ [] ≠ place) := fun h => h.2 (List.prefix_nil.1 h.1).symm
    rw [if_neg h]
    rfl
  · rw [List.concat_eq_append, at?_concat, at?_concat]
    show (⟨d.nodes.entries.filter fun e => !(place.isPrefixOf e.1 && e.1 != place)⟩ :
      Table Place Node).get? (p ++ [n]) = _
    rw [Table.get?_filter fun v => !(place.isPrefixOf v && v != place)]
    have hb : (place.isPrefixOf (p ++ [n]) && (p ++ [n]) != place) = true ↔
        place <+: p ++ [n] ∧ p ++ [n] ≠ place := by
      rw [Bool.and_eq_true, List.isPrefixOf_iff_prefix, bne_iff_ne]
    by_cases h : place <+: p ++ [n] ∧ p ++ [n] ≠ place
    · rw [if_pos h, hb.2 h]
      rfl
    · rw [if_neg h, Bool.eq_false_iff.2 fun he => h (hb.1 he)]
      rfl

/-- The entries of a directory are what stands right below it. -/
theorem mem_entriesAt_iff (h : d.IsTree) :
    (name, node) ∈ d.entriesAt place ↔ d.at? (place ++ [name]) = some node := by
  rw [at?_concat, ← Table.mem_entries_iff h.keys, entriesAt, List.mem_filterMap]
  constructor
  · rintro ⟨⟨v, a⟩, hm, he⟩
    rcases List.eq_nil_or_concat v with rfl | ⟨p, n, rfl⟩
    · cases he
    · simp only [List.concat_eq_append, List.getLast?_concat, List.dropLast_concat] at he
      split at he
      · next hp =>
        have hp : p = place := by simpa using hp
        cases he
        rw [← hp, ← List.concat_eq_append]
        exact hm
      · cases he
  · intro hm
    exact ⟨_, hm, by simp⟩

/-- A directory has no entries if nothing stands right below it. -/
theorem entriesAt_isEmpty_iff (h : d.IsTree) :
    (d.entriesAt place).isEmpty = true ↔ ∀ name, d.at? (place ++ [name]) = none := by
  rw [List.isEmpty_iff, List.eq_nil_iff_forall_not_mem]
  constructor
  · intro hnone name
    cases ha : d.at? (place ++ [name]) with
    | none => rfl
    | some node => exact absurd ((mem_entriesAt_iff h).2 ha) (hnone _)
  · rintro hnone ⟨name, node⟩ hm
    have hsome := (mem_entriesAt_iff h).1 hm
    rw [hnone name] at hsome
    cases hsome

/-! ## Trees stay trees -/

/-- The blank disk is a tree: nothing stands on it. -/
theorem isTree_blank : blank.IsTree where
  keys := List.nodup_nil
  parent place name node h := by
    rw [at?_concat] at h
    cases h

/-- There are no links on a blank disk. -/
theorem blank_ne_link (place : Place) (target : Path) : blank.at? place ≠ some (.link target) := by
  intro hp
  rcases List.eq_nil_or_concat place with rfl | ⟨above, name, rfl⟩
  · cases hp
  · rw [List.concat_eq_append, at?_concat] at hp
    cases hp

/-- Whether a disk is a tree can be told from its entries. -/
theorem isTree_of_entries (hk : d.nodes.keys.Nodup)
    (hp : ∀ e ∈ d.nodes.entries, d.isDirectoryAt e.1.dropLast = true) : d.IsTree where
  keys := hk
  parent place name node h := by
    rw [at?_concat, ← Table.mem_entries_iff hk] at h
    have hd := hp _ h
    rwa [List.dropLast_concat, isDirectoryAt_iff] at hd

/-- Nothing stands below what is no directory. -/
theorem IsTree.none_below (h : d.IsTree) (hn : d.at? place ≠ some .directory) (name : String) :
    d.at? (place ++ [name]) = none := by
  cases ha : d.at? (place ++ [name]) with
  | none => rfl
  | some node => exact absurd (h.parent _ _ _ ha) hn

/-- A tree stays one when a node is set in a directory, unless something else takes a directory's
place. -/
theorem IsTree.set (h : d.IsTree) (hp : d.at? place = some .directory)
    (hn : node = .directory ∨ d.at? (place ++ [name]) ≠ some .directory) :
    (d.set (place ++ [name]) node).IsTree where
  keys := Table.nodup_keys_put h.keys _ _
  parent v n m hm := by
    rw [at?_set] at hm ⊢
    by_cases hv : v ++ [n] = place ++ [name]
    · obtain ⟨rfl, -⟩ := List.append_inj' hv rfl
      rw [if_neg (by simp), hp]
    · rw [if_neg hv] at hm
      have hd := h.parent v n m hm
      by_cases hpv : v = place ++ [name]
      -- something stands below the new node, so a directory was there and still is
      · rw [if_pos hpv]
        rcases hn with rfl | hn
        · rfl
        · exact absurd (hpv ▸ hd) hn
      · rw [if_neg hpv, hd]

/-- A tree stays one when an entry is removed with nothing below it. -/
theorem IsTree.clear (h : d.IsTree) (hn : ∀ n, d.at? (place ++ [name] ++ [n]) = none) :
    (d.clear (place ++ [name])).IsTree where
  keys := Table.nodup_keys_filter h.keys _
  parent v n m hm := by
    rw [at?_clear] at hm ⊢
    split at hm
    · cases hm
    · have hd := h.parent v n m hm
      split
      · next hv =>
        rw [hv, hn n] at hm
        cases hm
      · exact hd

/-- A tree stays one when everything from a place on is removed. -/
theorem IsTree.clearBelow (h : d.IsTree) (place : Place) (name : String) :
    (d.clearBelow (place ++ [name])).IsTree where
  keys := Table.nodup_keys_filter h.keys _
  parent v n m hm := by
    rw [at?_clearBelow] at hm ⊢
    split at hm
    · cases hm
    · next hv =>
      rw [if_neg fun hp => hv (hp.trans (List.prefix_append _ _))]
      exact h.parent v n m hm

/-- A tree stays one when a directory is emptied. -/
theorem IsTree.clearInside (h : d.IsTree) (place : Place) : (d.clearInside place).IsTree where
  keys := Table.nodup_keys_filter h.keys _
  parent v n m hm := by
    rw [at?_clearInside] at hm ⊢
    split at hm
    · cases hm
    · next hv =>
      rw [if_neg]
      · exact h.parent v n m hm
      · rintro ⟨hp, -⟩
        refine hv ⟨hp.trans (List.prefix_append _ _), ?_⟩
        rintro rfl
        have hl := hp.length_le
        rw [List.length_append, List.length_singleton] at hl
        omega

end PushToTalk.Disk
