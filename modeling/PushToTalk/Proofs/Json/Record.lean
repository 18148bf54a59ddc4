import Mathlib.Data.List.Forall2
import PushToTalk.Json.Record

/-
  What reading a record gives.

  A body that comes in from the host or the backend is read by a shape: the names of its fields,
  their kinds and bounds, and which of them may be missing.  Whatever is read has one value for each
  field, in the order of the shape, of the kind that the field holds and within its bounds
  (`Field.Fits`).  So whoever uses a record need not look at the text again: a port that was read
  has sixteen bits, a text that must be there is there.

  1. **One field** — a scalar fits since the reader asks for its kind and its bounds; no value fits
     where the field is optional.

  2. **Lists** — a list gives the values in order already, one for each field.

  3. **Objects** — an object gives them in any order, and may give others beside them.  So what has
     been seen of it is kept under the names of the fields (`Seen.Suits`) until `arrange` puts it in
     order.  This is where the fields of a shape have to have different names: a value is then found
     under the name of the field that it was read for.

  That every fitting record is also read, from the text that it is written as, is the matter of
  `Json.RoundTrip`.

  Main statement: `Shape.fits_of_parseFront`.
-/

namespace PushToTalk.Json

/-- A value that a field may have. -/
def Field.Fits (f : Field) : Option Scalar → Prop
  | none => f.optional = true
  | some (.text _) => f.kind = .text
  | some (.integer n) => ∃ low high name, f.kind = .integer low high name ∧ low ≤ n ∧ n ≤ high

variable {shape : Shape} {f : Field} {fields : List Field} {s rest : List Char}

/-! ## One field -/

/-- A scalar that was read is of the kind of its field, and within its bounds. -/
theorem fits_of_readScalar {v : Scalar} (h : readScalar f.kind s = .ok (v, rest)) :
    f.Fits (some v) := by
  unfold readScalar at h
  split at h
  · cases h
  · next hk hgaps =>
    split at h
    · cases h
    · cases h
      exact hk
  · next low high name c rest' hk hgaps =>
    split at h
    · split at h
      · cases h
      · cases h
      · split at h
        · next hbounds =>
          cases h
          rw [Bool.and_eq_true, decide_eq_true_iff, decide_eq_true_iff] at hbounds
          exact ⟨low, high, name, hk, hbounds⟩
        · cases h
    · cases h
  · cases h

/-- The value that was read for a field is one that the field may have. -/
theorem Field.fits_of_read {v : Option Scalar} (h : f.read s = .ok (v, rest)) : f.Fits v := by
  unfold Field.read at h
  dsimp only at h
  split at h
  · next hoptional hgaps =>
    split at h
    · cases h
    · cases h
      exact hoptional
  · split at h
    · cases h
    · next scalar rest' hscalar =>
      cases h
      exact fits_of_readScalar hscalar

/-- Whoever is told where a slip happened is told the same results. -/
theorem ok_of_within {α : Type} {step : String} {r : Except Slip α} {a : α}
    (h : within step r = .ok a) : r = .ok a := by
  unfold within at h
  split at h
  · cases h
  · exact h

/-! ## Lists -/

/-- The values of a list fit the fields one by one. -/
theorem fits_of_readElements {index : Nat} {vs : List (Option Scalar)}
    (h : readElements shape index fields s = .ok (vs, rest)) : List.Forall₂ Field.Fits fields vs := by
  -- on the fields, as the reader goes by them and not by the elements
  induction fields generalizing index s vs rest with
  | nil =>
    cases h
    exact .nil
  | cons f fields ih =>
    rw [readElements] at h
    split at h
    · cases h
    · cases h
    · split at h
      · cases h
      · next v rest' hwithin =>
        split at h
        · cases h
        · next vs' rest'' helements =>
          cases h
          exact .cons (Field.fits_of_read (ok_of_within hwithin)) (ih helements)

/-! ## Objects -/

/-- What has been seen of an object suits the fields that it was seen for. -/
def Seen.Suits (shape : Shape) (seen : Seen) : Prop :=
  ∀ name v, (name, v) ∈ seen → ∀ f, shape.fields.find? (fun f => f.name == name) = some f → f.Fits v

/-- One more entry is seen for the field of its name, and fits it. -/
theorem suits_of_readEntry {seen seen' : Seen} (hseen : seen.Suits shape)
    (h : readEntry shape seen s = .ok (seen', rest)) : seen'.Suits shape := by
  unfold readEntry at h
  split at h
  · cases h
  · dsimp only at h
    split at h
    · -- the entry is for no field of the shape
      split at h
      · cases h
      · split at h
        · cases h
        · cases h
          exact hseen
    · next f hfind =>
      split at h
      · cases h
      · split at h
        · cases h
        · split at h
          · cases h
          · next v rest' hwithin =>
            cases h
            have hfits := Field.fits_of_read (ok_of_within hwithin)
            intro name v' hmem f' hf'
            rcases List.mem_append.1 hmem with hold | hnew
            · exact hseen name v' hold f' hf'
            · obtain ⟨rfl, rfl⟩ := Prod.mk.inj (List.mem_singleton.1 hnew)
              rw [hfind] at hf'
              exact Option.some.inj hf' ▸ hfits

/-- What was seen of an object in the end suits the fields, if what was seen before does. -/
theorem suits_of_readEntries {fuel : Nat} {first : Bool} {seen seen' : Seen}
    (hseen : seen.Suits shape) (h : readEntries shape fuel first seen s = .ok (seen', rest)) :
    seen'.Suits shape := by
  induction fuel generalizing first seen s with
  | zero => cases h
  | succ fuel ih =>
    rw [readEntries] at h
    split at h
    · cases h
    · cases h
      exact hseen
    · split at h
      · cases h
      · next hentry => exact ih (suits_of_readEntry hseen hentry) h

/-- What is found under a name was seen under it. -/
theorem Seen.mem_of_find? {seen : Seen} {name : String} {v : Option Scalar}
    (h : seen.find? name = some v) : (name, v) ∈ seen := by
  obtain ⟨e, he, rfl⟩ := Option.map_eq_some_iff.1 h
  have hname : e.1 = name := by simpa using List.find?_some he
  exact hname ▸ List.mem_of_find?_eq_some he

/-- Put in order, what was seen fits the fields one by one. -/
theorem fits_of_arrange {seen : Seen} {vs : List (Option Scalar)} (hseen : seen.Suits shape)
    (hfields : ∀ f ∈ fields, shape.fields.find? (fun g => g.name == f.name) = some f)
    (h : arrange rest seen fields = .ok vs) : List.Forall₂ Field.Fits fields vs := by
  induction fields generalizing vs with
  | nil =>
    cases h
    exact .nil
  | cons f fields ih =>
    -- whatever the first field has, the others are put in order behind it
    have hrest : ∀ {v : Option Scalar}, f.Fits v →
        (arrange rest seen fields).map (v :: ·) = .ok vs →
        List.Forall₂ Field.Fits (f :: fields) vs := by
      intro v hv hmap
      cases harrange : arrange rest seen fields with
      | error e =>
        rw [harrange] at hmap
        cases hmap
      | ok vs' =>
        rw [harrange] at hmap
        cases hmap
        exact .cons hv (ih (fun g hg => hfields g (List.mem_cons_of_mem _ hg)) harrange)
    rw [arrange] at h
    split at h
    · next v hfind =>
      exact hrest (hseen f.name v (Seen.mem_of_find? hfind) f (hfields f List.mem_cons_self)) h
    · split at h
      · next hoptional => exact hrest (v := none) hoptional h
      · cases h

/-- Where names are different, a field is found by its own. -/
theorem find?_name (distinct : (fields.map (·.name)).Nodup) (hf : f ∈ fields) :
    fields.find? (fun g => g.name == f.name) = some f := by
  induction fields with
  | nil => cases hf
  | cons g fields ih =>
    obtain ⟨hnot, hrest⟩ := List.nodup_cons.1 distinct
    rw [List.find?_cons]
    rcases List.mem_cons.1 hf with rfl | hf
    · rw [beq_self_eq_true]
    · have hne : (g.name == f.name) = false := by
        rw [beq_eq_false_iff_ne]
        intro he
        exact hnot (List.mem_map.2 ⟨f, hf, he.symm⟩)
      rw [hne]
      exact ih hrest hf

/-! ## Records -/

/-- A record that was read has a fitting value for each field of the shape. -/
theorem Shape.fits_of_parseFront {text : String} {vs : List (Option Scalar)}
    (distinct : (shape.fields.map (·.name)).Nodup) (h : shape.parseFront text = .ok vs) :
    List.Forall₂ Field.Fits shape.fields vs := by
  unfold parseFront at h
  dsimp only at h
  split at h
  · cases h
  next vs' rest hread =>
  cases h
  unfold read at hread
  split at hread
  · cases hread
  · split at hread
    · cases hread
    · next vs' rest' helements =>
      cases hend : endList rest' with
      | error e =>
        rw [hend] at hread
        cases hread
      | ok rest'' =>
        rw [hend] at hread
        cases hread
        exact fits_of_readElements helements
  · split at hread
    · cases hread
    · next seen rest' hentries =>
      cases harrange : arrange rest' seen shape.fields with
      | error e =>
        rw [harrange] at hread
        cases hread
      | ok vs' =>
        rw [harrange] at hread
        cases hread
        -- in front of an object nothing has been seen
        have hnothing : Seen.Suits shape [] := fun _ _ hmem => absurd hmem List.not_mem_nil
        have hseen : seen.Suits shape := suits_of_readEntries hnothing hentries
        exact fits_of_arrange hseen (fun f hf => find?_name distinct hf) harrange
  · cases hread

end PushToTalk.Json
