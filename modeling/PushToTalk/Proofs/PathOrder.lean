import Mathlib.Order.Defs.LinearOrder
import PushToTalk.Proofs.Path

/-
  The order of paths.

  A flush lists its recordings in ascending order, and the backend gets them in this order.  The
  order is defined step by step, so that it is an order at all has to be shown: that it is
  transitive, that it says the same from both sides, and which paths are equal in it.  Steps are
  ordered by their kind and then by their names, and paths by their steps as words are in a
  dictionary.  That is a linear order in which exactly the spellings of one path are equal, so
  sorting puts any paths into ascending order, and different ones into strictly ascending order.

  1. **Steps** — `Part.compare` is the order by rank, and by name within a rank (`Part.compare_eq`).
     The laws are inherited from the numbers and the texts.

  2. **Paths** — `compareParts` is the dictionary order over it, which passes the laws on.

  3. **Sorting** — a sorted list is ascending, and strictly so where no path was there twice.

  Names are compared character by character; comparing their bytes would give the same order, since
  the encoding keeps the order of the characters.

  Main statement: `sort_strict`.
-/

namespace PushToTalk.Path

/-! ## Steps -/

/-- The name of a step, where it has one. -/
def Part.label : Part → String
  | .name n => n
  | _ => ""

/-- Steps are ordered by kind first and by name then. -/
theorem Part.compare_eq :
    Part.compare = compareLex (compareOn Part.rank) (compareOn Part.label) := by
  funext a b
  cases a with
  | name m =>
    cases b with
    | name n => rfl
    | root | here | up => rfl
  | root | here | up => cases b <;> rfl

instance : Std.TransCmp Part.compare := by
  rw [Part.compare_eq]
  infer_instance

instance : Std.ReflCmp Part.compare := by
  rw [Part.compare_eq]
  infer_instance

/-- Steps that are equal in the order are the same step. -/
theorem Part.eq_of_compare {a b : Part} (h : a.compare b = .eq) : a = b := by
  rw [Part.compare_eq] at h
  obtain ⟨hrank, hlabel⟩ := Ordering.then_eq_eq.1 h
  have hr : a.rank = b.rank := Std.LawfulEqCmp.eq_of_compare hrank
  have hl : a.label = b.label := Std.LawfulEqCmp.eq_of_compare hlabel
  -- the ranks of different kinds differ, and within the only kind with names the label is the name
  cases a with
  | name m =>
    cases b with
    | name n => exact congrArg Part.name hl
    | root | here | up => cases hr
  | root | here | up => cases b <;> first | rfl | cases hr

instance : Std.LawfulEqCmp Part.compare where
  eq_of_compare := Part.eq_of_compare

/-! ## Paths -/

/-- Paths are ordered as words are in a dictionary. -/
theorem compareParts_eq (as bs : List Part) :
    compareParts as bs = List.compareLex Part.compare as bs := by
  induction as generalizing bs with
  | nil => cases bs <;> rfl
  | cons a as ih =>
    cases bs with
    | nil => rfl
    | cons b bs =>
      rw [compareParts, List.compareLex_cons_cons, ih]

/-- The order of paths is the dictionary order of their steps. -/
theorem compare_eq (p q : Path) : p.compare q = List.compareLex Part.compare p.parts q.parts :=
  compareParts_eq p.parts q.parts

instance : Std.TransCmp Path.compare where
  eq_swap := by
    intro p q
    rw [compare_eq, compare_eq]
    exact Std.OrientedCmp.eq_swap
  isLE_trans := by
    intro p q r hpq hqr
    rw [compare_eq] at hpq hqr ⊢
    exact Std.TransCmp.isLE_trans hpq hqr

/-- Two paths are equal in the order when they are the same path. -/
theorem compare_eq_iff_beq {p q : Path} : p.compare q = .eq ↔ (p == q) = true := by
  rw [compare_eq, Std.LawfulEqCmp.compare_eq_iff_eq, beq_iff]

/-! ## Sorting -/

/-- Sorting puts paths into ascending order. -/
theorem sort_ascending (ps : List Path) :
    (sort ps).Pairwise fun p q => (p.compare q).isLE = true := by
  refine List.pairwise_mergeSort (fun p q r => Std.TransCmp.isLE_trans) (fun p q => ?_) ps
  have hswap : q.compare p = (p.compare q).swap := Std.OrientedCmp.eq_swap
  rw [hswap]
  cases p.compare q <;> rfl

/-- Paths of which no two are the same are sorted into strictly ascending order. -/
theorem sort_strict {ps : List Path} (h : ps.Pairwise fun p q => (p == q) = false) :
    (sort ps).Pairwise fun p q => p.compare q = .lt := by
  have hdistinct : (sort ps).Pairwise fun p q => (p == q) = false :=
    ((List.mergeSort_perm ps _).pairwise_iff fun {p q} hpq => by rw [beq_comm]; exact hpq).2 h
  refine (sort_ascending ps).imp₂ ?_ hdistinct
  intro p q hle hne
  cases hc : p.compare q with
  | lt => rfl
  | eq =>
    rw [compare_eq_iff_beq.1 hc] at hne
    cases hne
  | gt =>
    rw [hc] at hle
    cases hle

end PushToTalk.Path
