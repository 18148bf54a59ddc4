import Mathlib.Data.List.Nodup
import PushToTalk.Table

/-
  Looking up what was put into a table, taken out of it, or changed all over.

  A table is a list of entries in the order in which their keys came, so both questions have an
  answer: what is found under a key, and in which order the entries stand.

  1. **Looking up** — for keys that need only be compared.  Paths are keys of this kind: two
     spellings of one path find the same, although they are not equal (`get?_congr`).

  2. **Keys that are told apart** — for keys that are the same only if they are equal.  Where each
     of them has one entry, the entries are what is found (`mem_entries_iff`); a key that is new
     comes last (`put_of_new`), and any other stays where it is.

  Each induction is on the entries, as putting in goes through them until it meets the key.

  Main statements: `get?_put`, `get?_erase`, `get?_map`, `put_of_new` and `mem_entries_iff`.
-/

namespace PushToTalk.Table

variable {κ α β : Type} [BEq κ]

/-- The first entry of a key is the one that is found. -/
theorem get?_cons (e : κ × α) (rest : List (κ × α)) (k : κ) :
    (⟨e :: rest⟩ : Table κ α).get? k = if e.1 == k then some e.2 else (⟨rest⟩ : Table κ α).get? k := by
  unfold get?
  cases h : e.1 == k <;> simp [h]

/-- Keys that are equal find the same. -/
theorem get?_congr [EquivBEq κ] (t : Table κ α) {k k' : κ} (h : k == k') :
    t.get? k = t.get? k' := by
  unfold get?
  simp only [BEq.congr_right h]

/-- What was put in is found, and everything else is found as before. -/
theorem get?_put [EquivBEq κ] (t : Table κ α) (k k' : κ) (a : α) :
    (t.put k a).get? k' = if k == k' then some a else t.get? k' := by
  obtain ⟨entries⟩ := t
  show (⟨putIn k a entries⟩ : Table κ α).get? k' = _
  induction entries with
  | nil => exact get?_cons _ _ _
  | cons e rest ih =>
    rw [putIn]
    split
    · next he =>
      have hk : (e.1 == k') = (k == k') := BEq.congr_left he
      rw [get?_cons, get?_cons, hk]
      split <;> rfl
    · next he =>
      rw [get?_cons, ih, get?_cons]
      cases hk : k == k' with
      | false => rfl
      | true =>
        -- the entry that is passed over has another key than the one looked up
        have hne : (e.1 == k') = false := by
          rw [← BEq.congr_right hk]
          simpa using he
        simp [hne]

/-- What was taken out is gone, and everything else is found as before. -/
theorem get?_erase [EquivBEq κ] (t : Table κ α) (k k' : κ) :
    (t.erase k).get? k' = if k == k' then none else t.get? k' := by
  obtain ⟨entries⟩ := t
  show (⟨entries.filter fun e => !(e.1 == k)⟩ : Table κ α).get? k' = _
  induction entries with
  | nil => split <;> rfl
  | cons e rest ih =>
    rw [List.filter_cons, get?_cons]
    cases he : e.1 == k with
    | true =>
      have hk : (e.1 == k') = (k == k') := BEq.congr_left he
      simp only [Bool.not_true, Bool.false_eq_true, if_false]
      rw [ih, hk]
      split <;> rfl
    | false =>
      simp only [Bool.not_false, if_true]
      rw [get?_cons, ih]
      cases hk : k == k' with
      | false => rfl
      | true =>
        have hne : (e.1 == k') = false := by rw [← BEq.congr_right hk, he]
        simp [hne]

/-- Changing all values changes what is found. -/
theorem get?_map (f : α → β) (t : Table κ α) (k : κ) :
    (t.map fun _ => f).get? k = (t.get? k).map f := by
  unfold get? map
  rw [List.find?_map, Option.map_map, Option.map_map]
  rfl

/-! ## Keys that are told apart -/

section Lawful

variable [LawfulBEq κ]

/-- Entries are kept or dropped by their keys. -/
theorem get?_filter (p : κ → Bool) (t : Table κ α) (k : κ) :
    (⟨t.entries.filter fun e => p e.1⟩ : Table κ α).get? k = if p k then t.get? k else none := by
  obtain ⟨entries⟩ := t
  induction entries with
  | nil => split <;> rfl
  | cons e rest ih =>
    rw [List.filter_cons, get?_cons]
    by_cases he : e.1 = k
    · subst he
      cases hp : p e.1 with
      | true => simp [get?_cons]
      | false =>
        simp only [Bool.false_eq_true, if_false]
        rw [ih, hp]
        rfl
    · have hne : (e.1 == k) = false := by simpa using he
      rw [hne]
      split
      · rw [get?_cons, hne]
        exact ih
      · exact ih

/-- Where every key has one entry, the entries are what is found. -/
theorem mem_entries_iff {t : Table κ α} (h : t.keys.Nodup) {k : κ} {a : α} :
    (k, a) ∈ t.entries ↔ t.get? k = some a := by
  obtain ⟨entries⟩ := t
  induction entries with
  | nil => simp [get?]
  | cons e rest ih =>
    obtain ⟨hnot, hrest⟩ := List.nodup_cons.1 (show (e.1 :: rest.map (·.1)).Nodup from h)
    have ih := ih hrest
    rw [get?_cons]
    by_cases he : e.1 = k
    · subst he
      have hrest : (e.1, a) ∉ rest := fun hm => hnot (List.mem_map_of_mem (f := (·.1)) hm)
      have heq : (e.1, a) = e ↔ e.2 = a := by
        constructor
        · intro hea
          rw [← hea]
        · rintro rfl
          rfl
      simp [hrest, heq]
    · have hne : (e.1 == k) = false := by simpa using he
      have hnot : (k, a) ≠ e := by
        rintro rfl
        exact he rfl
      simp [hne, hnot, ih]

/-- Putting a value in keeps the keys, or adds its key behind them if that is new. -/
theorem keys_putIn (k : κ) (a : α) (entries : List (κ × α)) :
    (putIn k a entries).map (·.1) = entries.map (·.1) ∨
      (putIn k a entries).map (·.1) = entries.map (·.1) ++ [k] ∧ k ∉ entries.map (·.1) := by
  induction entries with
  | nil => exact Or.inr ⟨rfl, List.not_mem_nil⟩
  | cons e rest ih =>
    rw [putIn]
    by_cases he : e.1 = k
    · exact Or.inl (by simp [he])
    · have hne : (e.1 == k) = false := by simpa using he
      simp only [hne, Bool.false_eq_true, if_false, List.map_cons]
      rcases ih with ih | ⟨ih, hnot⟩
      · exact Or.inl (by rw [ih])
      · refine Or.inr ⟨by rw [ih, List.cons_append], ?_⟩
        rw [List.mem_cons, not_or]
        exact ⟨fun hk => he hk.symm, hnot⟩

/-- The keys of a table are those that it has. -/
theorem mem_keys_iff {t : Table κ α} {k : κ} : k ∈ t.keys ↔ t.has k = true := by
  simp only [keys, has, List.mem_map, List.any_eq_true, beq_iff_eq]

omit [LawfulBEq κ] in
/-- A table has the keys under which something is found. -/
theorem has_eq_isSome (t : Table κ α) (k : κ) : t.has k = (t.get? k).isSome := by
  rw [Bool.eq_iff_iff, has, get?, Option.isSome_map, List.find?_isSome, List.any_eq_true]

omit [LawfulBEq κ] in
/-- A key that is new comes last. -/
theorem put_of_new {t : Table κ α} {k : κ} (h : t.has k = false) (a : α) :
    (t.put k a).entries = t.entries ++ [(k, a)] := by
  obtain ⟨entries⟩ := t
  show putIn k a entries = entries ++ [(k, a)]
  induction entries with
  | nil => rfl
  | cons e rest ih =>
    simp only [has, List.any_cons, Bool.or_eq_false_iff] at h ih
    rw [putIn, if_neg (by simp [h.1]), ih h.2, List.cons_append]

/-- A key that is there gets another value. -/
theorem size_put_of_some {t : Table κ α} {k : κ} {a : α} (h : t.get? k = some a) (a' : α) :
    (t.put k a').size = t.size := by
  have hmem : k ∈ t.keys := mem_keys_iff.2 (by rw [has_eq_isSome, h]; rfl)
  rcases keys_putIn k a' t.entries with he | ⟨-, hnot⟩
  · have hl := congrArg List.length he
    rwa [List.length_map, List.length_map] at hl
  · exact absurd hmem hnot

omit [LawfulBEq κ] in
/-- One value more of a kind at most, and none more if the new value is of another. -/
theorem countP_putIn_le (kind : α → Bool) (k : κ) (a : α) (entries : List (κ × α)) :
    (putIn k a entries).countP (fun e => kind e.2) ≤
      entries.countP (fun e => kind e.2) + (kind a).toNat := by
  induction entries with
  | nil => cases hk : kind a <;> simp [putIn, hk]
  | cons e rest ih =>
    rw [putIn]
    split
    · cases hk : kind a <;> simp [List.countP_cons, hk]
    · rw [List.countP_cons, List.countP_cons]
      omega

/-- Putting a value in gives no key a second entry. -/
theorem nodup_keys_put {t : Table κ α} (h : t.keys.Nodup) (k : κ) (a : α) :
    (t.put k a).keys.Nodup := by
  show ((putIn k a t.entries).map (·.1)).Nodup
  rcases keys_putIn k a t.entries with he | ⟨he, hnot⟩ <;> rw [he]
  · exact h
  · exact List.Nodup.append h (List.nodup_singleton k)
      (List.disjoint_singleton.2 hnot)

omit [BEq κ] [LawfulBEq κ] in
/-- Dropping entries gives no key a second entry. -/
theorem nodup_keys_filter {t : Table κ α} (h : t.keys.Nodup) (p : κ × α → Bool) :
    (⟨t.entries.filter p⟩ : Table κ α).keys.Nodup :=
  (List.filter_sublist.map _).nodup h

end Lawful

end PushToTalk.Table
