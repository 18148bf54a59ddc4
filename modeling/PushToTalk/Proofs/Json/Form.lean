import Mathlib.Data.List.TakeWhile
import PushToTalk.Proofs.Json.Value

/-
  Which texts are read as a record, and what the record is then.

  A record comes as a text of JSON from a server or from a client of the control API.  Its fields
  are known beforehand, each with its kind, its bounds and whether it may be missing; the text may
  be an object or a list, may have members that are unknown, and may have blanks between any two
  tokens.  This module says of every text whether it is such a record, by a grammar that does not
  mention the reader, and what the values of the fields are in it.

  The members of an object are described as they stand in it, repetitions and strangers included
  (`IsMembers`).  What the reader makes of them is a second step (`Gathers`), which knows nothing of
  blanks and commas.  So the grammar is compared with the reader once, and the fields with the
  members once, and neither comparison sees the other.

  1. **Values** — how the value of a field may be spelled (`Field.Spells`), and that these spellings
     are what is read (`Field.read_append`, `Field.spells_of_read`).

  2. **Lists** — as many elements as there are fields, in their order (`readElements_append`,
     `elements_of_readElements`).

  3. **Objects** — members up to the end, each of which is a field that has not come yet, or unknown
     (`readEntries_append`, `members_of_readEntries`).

  4. **Fields** — a field that is given once has that value, and one that is not given has none, if
     it is optional (`gathers_arrange_iff`).  Here the names of the fields have to be distinct.

  5. **Records** — the two forms, between blanks (`Shape.IsObject`, `Shape.IsList`).

  Main statement: `Shape.parse_eq_ok_iff`.
-/

namespace PushToTalk.Json

open Text.Numeral (digits isDigit)

variable {shape : Shape} {f : Field} {fields : List Field} {s t v rest g : List Char} {c : Char}
  {first : Bool} {x : Option Scalar} {xs : List (Option Scalar)} {seen seen' : Seen}

/-! ## Values -/

/-- The spelling of a value that a field may have. A text may be spelled in many ways; a number
in one way only, since a fraction or an exponent makes it a value of another kind. -/
inductive Field.Spells (f : Field) : List Char → Option Scalar → Prop
  | null (h : f.optional = true) : f.Spells "null".toList none
  | text {t cs : List Char} (h : f.kind = .text) (ht : Json.Spells t cs) :
      f.Spells ('"' :: (t ++ ['"'])) (some (.text (String.ofList cs)))
  | integer {low high n : Int} {name : String} (h : f.kind = .integer low high name)
      (hbounds : low ≤ n ∧ n ≤ high) (hword : IsWord n) :
      f.Spells (Text.Numeral.signed n) (some (.integer n))

/-- Two texts make a text. -/
theorem isText_append (ht : IsText t) {t' : List Char} (ht' : IsText t') : IsText (t ++ t') := by
  induction ht with
  | nil => exact ht'
  | cons hp _ ih =>
    rw [List.append_assoc]
    exact .cons hp ih

/-- What spells characters is a text, as the grammar has it. A pair of escapes that spells one
character is two pieces of text. -/
theorem Spells.isText {cs : List Char} (h : Spells t cs) : IsText t := by
  have hsingle : ∀ {p : List Char}, IsPiece p → IsText p := by
    intro p hp
    simpa using IsText.cons hp .nil
  induction h with
  | nil => exact .nil
  | cons hp _ ih =>
    refine isText_append ?_ ih
    cases hp with
    | plain hquote hslash hcontrol => exact hsingle (.plain hquote hslash hcontrol)
    | letter he => exact hsingle (.letter (by rw [he]; rfl))
    | code hcode => exact hsingle (.code hcode)
    | pair hcode _ hcode' _ =>
      exact isText_append (t := '\\' :: 'u' :: _) (hsingle (.code hcode)) (hsingle (.code hcode'))

/-- The digits of a number are a number without sign: they do not start with a zero, unless that
is all. -/
theorem isUnsigned_digits (n : Nat) : IsUnsigned (digits n) := by
  refine ⟨digits n, [], [], ?_, Or.inl rfl, Or.inl rfl, by simp⟩
  rcases digits_eq_cons n with ⟨-, h⟩ | ⟨c, ds, h, hc, -⟩
  · exact Or.inl h
  · refine Or.inr ⟨⟨Text.Numeral.digits_ne_nil n, Text.Numeral.isDigit_of_mem_digits n⟩, ?_⟩
    rw [h]
    intro he
    exact hc (Option.some.inj he)

/-- A number that is written out is a number of the grammar. -/
theorem isNumber_signed (n : Int) : IsNumber (Text.Numeral.signed n) := by
  unfold Text.Numeral.signed
  split
  · exact Or.inr ⟨_, isUnsigned_digits _, rfl⟩
  · exact Or.inl (isUnsigned_digits _)

/-- The value of a field is a value. -/
theorem Field.Spells.isValue (h : f.Spells v x) : IsValue v := by
  cases h with
  | null => exact .scalar .null
  | text _ ht => exact .scalar (.text ht.isText)
  | integer => exact .scalar (.number (isNumber_signed _))

/-- Blanks in front of a value do not matter. -/
theorem Field.read_gaps (hg : AreGaps g) (s : List Char) : f.read (g ++ s) = f.read s := by
  unfold Field.read readScalar
  rw [skipGaps_append hg]

/-- A spelled value is read where nothing follows that a number could go on with. -/
theorem Field.read_append (h : f.Spells v x) (hg : AreGaps g) (hrest : EndsNumber rest) :
    f.read (g ++ (v ++ rest)) = .ok (x, rest) := by
  rw [Field.read_gaps hg]
  cases h with
  | null hoptional => exact Field.read_chars (v := none) hoptional nofun hrest
  | @text t cs hkind ht =>
    have htext : readText (t ++ '"' :: rest) = .ok (cs, rest) := readText_eq_ok_iff.2 ⟨t, ht, rfl⟩
    have hfront : '"' :: (t ++ ['"']) ++ rest = '"' :: (t ++ '"' :: rest) := by simp
    rw [hfront]
    refine Field.read_of_readScalar (by decide) (by decide) ?_
    unfold readScalar
    rw [hkind, skipGaps_cons (by decide)]
    simp only [htext]
  -- the digits are read as they are because nothing behind them goes on with the number
  | @integer low high n name hkind hbounds hword =>
    refine Field.read_chars (v := some (.integer n)) ⟨low, high, name, hkind, hbounds⟩ ?_ hrest
    intro m hm
    obtain rfl : n = m := Scalar.integer.inj (Option.some.inj hm)
    exact hword

/-- What is read is a spelled value. The kind of the field decides what may come, and `null` is
looked for first where the field is optional. -/
theorem Field.spells_of_read (h : f.read s = .ok (x, rest)) :
    ∃ g v, AreGaps g ∧ f.Spells v x ∧ s = g ++ (v ++ rest) := by
  unfold Field.read readScalar at h
  dsimp only at h
  split at h
  · next r hoptional he =>
    split at h
    · cases h
    · next hnull =>
      cases h
      obtain rfl := word_of_readWord hnull
      obtain ⟨g, hg, rfl⟩ := exists_gaps he
      exact ⟨g, _, hg, .null hoptional, rfl⟩
  · split at h
    · cases h
    · next y r hpresent =>
      cases h
      split at hpresent
      · cases hpresent
      · next r' hkind he =>
        split at hpresent
        · cases hpresent
        · next cs r'' htext =>
          cases hpresent
          obtain ⟨t, ht, rfl⟩ := readText_eq_ok_iff.1 htext
          obtain ⟨g, hg, rfl⟩ := exists_gaps he
          exact ⟨g, _, hg, .text hkind ht, by simp⟩
      · -- a number has to be whole and within the bounds of the field
        next low high name c r' hkind he =>
        split at hpresent
        · split at hpresent
          · cases hpresent
          · cases hpresent
          · next n r'' hnumber =>
            split at hpresent
            · next hbounds =>
              cases hpresent
              rw [Bool.and_eq_true, decide_eq_true_iff, decide_eq_true_iff] at hbounds
              obtain ⟨hword, hsplit⟩ := readNumber_whole hnumber
              obtain ⟨g, hg, rfl⟩ := exists_gaps he
              exact ⟨g, _, hg, .integer hkind hbounds hword, by rw [hsplit]⟩
            · cases hpresent
        · cases hpresent
      · cases hpresent

/-- A spelling spells one value only, since it is read in one way. -/
theorem Field.Spells.unique {y : Option Scalar} (h : f.Spells v x) (h' : f.Spells v y) : x = y := by
  have hends : EndsNumber [] := nofun
  have hread := Field.read_append h areGaps_nil hends
  rw [Field.read_append h' areGaps_nil hends] at hread
  exact (Prod.mk.inj (Except.ok.inj hread)).1.symm

/-! ## Lists -/

/-- What is left of a list in front of its first element or behind a later one, and the elements
in it. -/
inductive IsElements : Bool → List (List Char) → List Char → Prop
  | done {first : Bool} {g : List Char} (hg : AreGaps g) : IsElements first [] (g ++ [']'])
  | more {first : Bool} {sep g v t : List Char} {vs : List (List Char)}
      (hsep : IsSeparator first sep) (hg : AreGaps g) (hv : IsValue v)
      (ht : IsElements false vs t) : IsElements first (v :: vs) (sep ++ (g ++ (v ++ t)))

/-- The elements of a list are what may stand inside of one. -/
theorem IsElements.inside {vs : List (List Char)} (h : IsElements first vs t) :
    IsInside .list first t := by
  induction h with
  | done hg => exact .done hg
  | more hsep hg hv _ ih => exact .more hsep .none hg hv ih

/-- The spellings of the values of all fields. -/
inductive AllSpelled : List Field → List (List Char) → List (Option Scalar) → Prop
  | nil : AllSpelled [] [] []
  | cons {f : Field} {fields : List Field} {v : List Char} {vs : List (List Char)}
      {x : Option Scalar} {xs : List (Option Scalar)} (hv : f.Spells v x)
      (hvs : AllSpelled fields vs xs) : AllSpelled (f :: fields) (v :: vs) (x :: xs)

/-- Where another element is found, there is a separator in front of it. -/
theorem separator_of_nextElement (h : nextElement first s = .ok (true, rest)) :
    ∃ sep g, IsSeparator first sep ∧ AreGaps g ∧ s = sep ++ (g ++ rest) := by
  unfold nextElement at h
  split at h
  · cases h
  · cases h
  · next c r _ he =>
    obtain ⟨g, hg, rfl⟩ := exists_gaps he
    split at h
    · -- the first element has no comma in front
      next hfirst =>
      cases h
      rw [hfirst]
      exact ⟨[], g, .first, hg, rfl⟩
    · next hfirst =>
      obtain rfl : first = false := by simpa using hfirst
      split at h
      · next hc =>
        obtain rfl := beq_iff_eq.1 hc
        split at h
        · cases h
        · cases h
        · cases h
          obtain ⟨g', hg', hr⟩ := exists_gaps (s := r) rfl
          refine ⟨g ++ [','], g', .later hg, hg', ?_⟩
          rw [← hr]
          simp
      · cases h

/-- Behind a separator another element is found. The first one has no comma in front, and a later
one does not come without. -/
theorem nextElement_append {sep : List Char} (hsep : IsSeparator first sep) (hg : AreGaps g)
    (hc : isGap c = false) (hclosing : c ≠ ']') :
    nextElement first (sep ++ (g ++ c :: t)) = .ok (true, c :: t) := by
  unfold nextElement
  cases hsep with
  | first =>
    rw [List.nil_append, skipGaps_front hg hc]
    split
    · next he => cases he
    · next he =>
      cases he
      exact absurd rfl hclosing
    · next he =>
      cases he
      rfl
  -- behind the comma the list must not end
  | later hgaps =>
    rw [skipGaps_comma hgaps]
    split
    · next he => cases he
    · next he => cases he
    · next he =>
      cases he
      rw [if_neg Bool.false_ne_true, if_pos (beq_self_eq_true ','), skipGaps_front hg hc]
      split
      · next he => cases he
      · next he =>
        cases he
        exact absurd rfl hclosing
      · rfl

/-- A list ends with its bracket and blanks in front of it. -/
theorem endList_eq_ok_iff : endList s = .ok rest ↔ ∃ g, AreGaps g ∧ s = g ++ ']' :: rest := by
  constructor
  · intro h
    unfold endList at h
    split at h
    · cases h
    · next he =>
      cases h
      exact exists_gaps he
    · split at h <;> cases h
    · cases h
  · rintro ⟨g, hg, rfl⟩
    unfold endList
    rw [skipGaps_front hg (by decide)]
    rfl

/-- What is read field by field up to the end of a list are its elements. The induction is on the
fields, whose number decides how many elements there are. -/
theorem elements_of_readElements {index : Nat} {mid : List Char}
    (h : readElements shape index fields s = .ok (xs, mid)) (hend : endList mid = .ok rest) :
    ∃ vs t, IsElements (decide (index = 0)) vs t ∧ AllSpelled fields vs xs ∧ s = t ++ rest := by
  induction fields generalizing index s xs with
  | nil =>
    cases h
    obtain ⟨g, hg, rfl⟩ := endList_eq_ok_iff.1 hend
    exact ⟨[], g ++ [']'], .done hg, .nil, by simp⟩
  | cons f fields ih =>
    rw [readElements] at h
    split at h
    · cases h
    · cases h
    · next r hnext =>
      obtain ⟨sep, g, hsep, hg, rfl⟩ := separator_of_nextElement hnext
      split at h
      · cases h
      · next x r' hwithin =>
        obtain ⟨g', v, hg', hv, rfl⟩ := Field.spells_of_read (ok_of_within hwithin)
        split at h
        · cases h
        · next xs' mid' helements =>
          cases h
          obtain ⟨vs, t, ht, hvs, rfl⟩ := ih helements
          refine ⟨v :: vs, sep ++ ((g ++ g') ++ (v ++ t)),
            .more hsep (hg.append hg') hv.isValue ht, .cons hv hvs, ?_⟩
          simp

/-- The elements of a list are read field by field, up to where it ends. -/
theorem readElements_append {index : Nat} {vs : List (List Char)} (hvs : AllSpelled fields vs xs)
    (h : IsElements (decide (index = 0)) vs t) (rest : List Char) :
    ∃ mid, readElements shape index fields (t ++ rest) = .ok (xs, mid) ∧
      endList mid = .ok rest := by
  induction hvs generalizing index t with
  | nil =>
    cases h with
    | done hg => exact ⟨_, rfl, endList_eq_ok_iff.2 ⟨_, hg, by simp⟩⟩
  | @cons f fields v vs x xs hv _ ih =>
    cases h with
    | @more _ sep g _ t _ hsep hg _ ht =>
      obtain ⟨mid, helements, hend⟩ : ∃ mid, readElements shape (index + 1) fields (t ++ rest) =
          .ok (xs, mid) ∧ endList mid = .ok rest := ih ht
      have hread := Field.read_append hv areGaps_nil (ht.inside.endsNumber rest)
      obtain ⟨c, v', rfl, hc, hclosing⟩ := value_eq_cons hv.isValue
      have hnext : nextElement (decide (index = 0)) (sep ++ (g ++ (c :: v' ++ t)) ++ rest) =
          .ok (true, c :: v' ++ (t ++ rest)) := by
        simpa using nextElement_append (t := v' ++ (t ++ rest)) hsep hg hc (hclosing .list)
      refine ⟨mid, ?_, hend⟩
      rw [readElements, hnext]
      rw [List.nil_append] at hread
      simp only [hread, within, helements]

/-! ## Objects -/

/-- A member of an object: its name, and the spelling of its value. -/
structure Member where
  name : String
  value : List Char

/-- The spelling of a name up to its value. -/
def SpellsName (key : List Char) (name : String) : Prop :=
  ∃ g t g', AreGaps g ∧ Spells t name.toList ∧ AreGaps g' ∧
    key = g ++ '"' :: (t ++ '"' :: (g' ++ [':']))

/-- What is left of an object in front of its first member or behind a later one, and the members
in it. -/
inductive IsMembers : Bool → List Member → List Char → Prop
  | done {first : Bool} {g : List Char} (hg : AreGaps g) : IsMembers first [] (g ++ ['\x7d'])
  | more {first : Bool} {m : Member} {ms : List Member} {sep key g t : List Char}
      (hsep : IsSeparator first sep) (hkey : SpellsName key m.name) (hg : AreGaps g)
      (hv : IsValue m.value) (ht : IsMembers false ms t) :
      IsMembers first (m :: ms) (sep ++ (key ++ (g ++ (m.value ++ t))))

variable {m : Member} {ms : List Member}

/-- The members of an object are what may stand inside of one. -/
theorem IsMembers.inside (h : IsMembers first ms t) : IsInside .object first t := by
  induction h with
  | done hg => exact .done hg
  | more hsep hkey hg hv _ ih =>
    refine .more hsep ?_ hg hv ih
    obtain ⟨gaps, t, gaps', hgaps, ht, hgaps', rfl⟩ := hkey
    exact .text hgaps ht.isText hgaps'

/-- Every member takes some room, so the fuel of the reader, which is the length of the text,
lasts. -/
theorem IsMembers.length_lt (h : IsMembers first ms t) : ms.length < t.length := by
  induction h with
  | done => simp
  | more _ hkey _ _ _ ih =>
    obtain ⟨gaps, t, gaps', -, -, -, rfl⟩ := hkey
    simp only [List.length_append, List.length_cons] at ih ⊢
    omega

/-- What a member adds to what has been seen. -/
inductive Takes (shape : Shape) (seen : Seen) (m : Member) : Seen → Prop
  /-- There is no such field. -/
  | other (h : shape.fields.find? (fun f => f.name == m.name) = none) : Takes shape seen m seen
  /-- The field has not come yet. -/
  | field {f : Field} {x : Option Scalar}
      (h : shape.fields.find? (fun f => f.name == m.name) = some f)
      (hnew : seen.find? m.name = none) (hv : f.Spells m.value x) :
      Takes shape seen m (seen ++ [(m.name, x)])

/-- What all members add to what has been seen. -/
inductive Gathers (shape : Shape) : Seen → List Member → Seen → Prop
  | nil {seen : Seen} : Gathers shape seen [] seen
  | cons {seen seen' seen'' : Seen} {m : Member} {ms : List Member} (h : Takes shape seen m seen')
      (hs : Gathers shape seen' ms seen'') : Gathers shape seen (m :: ms) seen''

/-- Where another key is found, there is a separator in front of it, and a quote begins it. -/
theorem separator_of_nextKey {key r : List Char} (h : nextKey first s = .ok (some key, r)) :
    ∃ sep g, IsSeparator first sep ∧ AreGaps g ∧ s = sep ++ (g ++ '"' :: key) := by
  unfold nextKey at h
  split at h
  · cases h
  · cases h
  · next c r _ he =>
    obtain ⟨g, hg, rfl⟩ := exists_gaps he
    split at h
    · -- the first key has no comma in front
      next hfirst =>
      split at h
      · next hc =>
        cases h
        obtain rfl := beq_iff_eq.1 hc
        rw [hfirst]
        exact ⟨[], g, .first, hg, rfl⟩
      · cases h
    · next hfirst =>
      obtain rfl : first = false := by simpa using hfirst
      split at h
      · next hc =>
        obtain rfl := beq_iff_eq.1 hc
        split at h
        · cases h
        · next he' =>
          cases h
          obtain ⟨g', hg', rfl⟩ := exists_gaps he'
          exact ⟨g ++ [','], g', .later hg, hg', by simp⟩
        · cases h
        · cases h
      · cases h

/-- Behind a separator another key is found, and what is handed on begins behind its quote. -/
theorem nextKey_append {sep key : List Char} (hsep : IsSeparator first sep) (hg : AreGaps g) :
    nextKey first (sep ++ (g ++ '"' :: key)) = .ok (some key, key) := by
  have hquote : skipGaps (g ++ '"' :: key) = '"' :: key := skipGaps_front hg (by decide)
  unfold nextKey
  cases hsep with
  | first =>
    rw [List.nil_append, hquote]
    rfl
  | later hgaps =>
    rw [skipGaps_comma hgaps]
    split
    · next he => cases he
    · next he => cases he
    · next he =>
      cases he
      rw [if_neg Bool.false_ne_true, if_pos (beq_self_eq_true ','), hquote]
      rfl

/-- No more keys are found exactly where the object ends. A bracket of a list does not end it. -/
theorem nextKey_none_iff :
    nextKey first s = .ok (none, rest) ↔ ∃ g, AreGaps g ∧ s = g ++ '\x7d' :: rest := by
  constructor
  · intro h
    unfold nextKey at h
    split at h
    · cases h
    · next he =>
      cases h
      exact exists_gaps he
    · -- what is neither the end nor a quote behind its comma is an error, and never the end
      split at h
      · split at h <;> cases h
      · split at h
        · split at h <;> cases h
        · cases h
  · rintro ⟨g, hg, rfl⟩
    unfold nextKey
    rw [skipGaps_front hg (by decide)]
    rfl

/-- Between a key and its value there is a colon, with blanks in front of it. -/
theorem readColon_eq_ok_iff : readColon s = .ok rest ↔ ∃ g, AreGaps g ∧ s = g ++ ':' :: rest := by
  constructor
  · intro h
    unfold readColon at h
    split at h
    · cases h
    · next he =>
      cases h
      exact exists_gaps he
    · cases h
  · rintro ⟨g, hg, rfl⟩
    unfold readColon
    rw [skipGaps_front hg (by decide)]
    rfl

/-- What is read as an entry is a member, from the quote of its name on. -/
theorem member_of_readEntry (h : readEntry shape seen s = .ok (seen', rest)) :
    ∃ m t g' g, Spells t m.name.toList ∧ AreGaps g' ∧ AreGaps g ∧ IsValue m.value ∧
      Takes shape seen m seen' ∧ s = t ++ '"' :: (g' ++ ':' :: (g ++ (m.value ++ rest))) := by
  unfold readEntry at h
  split at h
  · cases h
  · next cs r htext =>
    obtain ⟨t, ht, rfl⟩ := readText_eq_ok_iff.1 htext
    rw [← String.toList_ofList (l := cs)] at ht
    dsimp only at h
    split at h
    · -- the shape has no field of this name, so the value is passed over
      next hfind =>
      split at h
      · cases h
      · next hcolon =>
        obtain ⟨g, hg, rfl⟩ := readColon_eq_ok_iff.1 hcolon
        split at h
        · cases h
        · next hskip =>
          cases h
          obtain ⟨g', v, hg', hv, rfl⟩ := value_of_skipValue (ok_of_within hskip)
          exact ⟨⟨String.ofList cs, v⟩, t, g, g', ht, hg, hg', hv, .other hfind, rfl⟩
    · -- there is such a field, and its name must not have come before
      next f hfind =>
      split at h
      · cases h
      · next hnew =>
        split at h
        · cases h
        · next hcolon =>
          obtain ⟨g, hg, rfl⟩ := readColon_eq_ok_iff.1 hcolon
          split at h
          · cases h
          · next x r hread =>
            cases h
            obtain ⟨g', v, hg', hv, rfl⟩ := Field.spells_of_read (ok_of_within hread)
            have hnew : seen.find? (String.ofList cs) = none := by simpa using hnew
            exact ⟨⟨String.ofList cs, v⟩, t, g, g', ht, hg, hg', hv.isValue,
              .field hfind hnew hv, rfl⟩

/-- A member is read as an entry. -/
theorem readEntry_append {t g' : List Char} (ht : Spells t m.name.toList) (hg' : AreGaps g')
    (hg : AreGaps g) (hv : IsValue m.value) (htakes : Takes shape seen m seen')
    (hrest : EndsNumber rest) :
    readEntry shape seen (t ++ '"' :: (g' ++ ':' :: (g ++ (m.value ++ rest)))) =
      .ok (seen', rest) := by
  have htext : readText (t ++ '"' :: (g' ++ ':' :: (g ++ (m.value ++ rest)))) =
      .ok (m.name.toList, g' ++ ':' :: (g ++ (m.value ++ rest))) :=
    readText_eq_ok_iff.2 ⟨t, ht, rfl⟩
  have hcolon : readColon (g' ++ ':' :: (g ++ (m.value ++ rest))) =
      .ok (g ++ (m.value ++ rest)) := readColon_eq_ok_iff.2 ⟨g', hg', rfl⟩
  unfold readEntry
  rw [htext]
  cases htakes with
  | other hfind =>
    simp only [String.ofList_toList, hfind, hcolon, skipValue_append hv hg hrest, within]
  | field hfind hnew hspells =>
    simp only [String.ofList_toList, hfind, hnew, hcolon, Field.read_append hspells hg hrest,
      within]
    rfl

/-- What is read up to the end of an object are its members. The induction is on the fuel, of
which each member takes one. -/
theorem members_of_readEntries {fuel : Nat}
    (h : readEntries shape fuel first seen s = .ok (seen', rest)) :
    ∃ ms t, IsMembers first ms t ∧ Gathers shape seen ms seen' ∧ s = t ++ rest := by
  induction fuel generalizing first seen s with
  | zero => cases h
  | succ fuel ih =>
    rw [readEntries] at h
    split at h
    · cases h
    · next hnext =>
      cases h
      obtain ⟨g, hg, rfl⟩ := nextKey_none_iff.1 hnext
      exact ⟨[], g ++ ['\x7d'], .done hg, .nil, by simp⟩
    · next hnext =>
      obtain ⟨sep, gaps, hsep, hgaps, rfl⟩ := separator_of_nextKey hnext
      split at h
      · cases h
      · next hentry =>
        obtain ⟨m, t₀, g₀, g, ht₀, hg₀, hg, hv, htakes, rfl⟩ := member_of_readEntry hentry
        obtain ⟨ms, t, ht, hgathers, rfl⟩ := ih h
        exact ⟨m :: ms, _, .more hsep ⟨gaps, t₀, g₀, hgaps, ht₀, hg₀, rfl⟩ hg hv ht,
          .cons htakes hgathers, by simp⟩

/-- The members of an object are read up to its end, if the fuel lasts. -/
theorem readEntries_append {fuel : Nat} (h : IsMembers first ms t)
    (hgathers : Gathers shape seen ms seen') (hfuel : ms.length < fuel) (rest : List Char) :
    readEntries shape fuel first seen (t ++ rest) = .ok (seen', rest) := by
  induction h generalizing fuel seen with
  | @done first g hg =>
    cases hgathers with
    | nil =>
      obtain ⟨fuel, rfl⟩ := Nat.exists_eq_succ_of_ne_zero (Nat.ne_of_gt hfuel)
      have hnext : nextKey first (g ++ ['\x7d'] ++ rest) = .ok (none, rest) :=
        nextKey_none_iff.2 ⟨g, hg, by simp⟩
      rw [readEntries, hnext]
  -- one turn reads the separator, the key and the value, and leaves the rest of the members
  | @more first m ms sep key g t hsep hkey hg hv ht ih =>
    cases hgathers with
    | @cons _ seen₁ _ _ _ htakes hgathers =>
      obtain ⟨fuel, rfl⟩ := Nat.exists_eq_succ_of_ne_zero (Nat.ne_of_gt (Nat.zero_lt_of_lt hfuel))
      obtain ⟨gaps, t₀, g₀, hgaps, ht₀, hg₀, rfl⟩ := hkey
      have hentry := readEntry_append ht₀ hg₀ hg hv htakes (ht.inside.endsNumber rest)
      have hfront : sep ++ (gaps ++ '"' :: (t₀ ++ '"' :: (g₀ ++ [':'])) ++ (g ++ (m.value ++ t))) ++
          rest = sep ++ (gaps ++ '"' :: (t₀ ++ '"' :: (g₀ ++ ':' ::
            (g ++ (m.value ++ (t ++ rest)))))) := by simp
      rw [hfront, readEntries, nextKey_append hsep hgaps]
      simp only [hentry]
      exact ih hgathers (Nat.lt_of_succ_lt_succ hfuel)

/-! ## Fields -/

/-- The spellings that an object gives for a name, in their order. More than one is a repetition. -/
def named (name : String) (ms : List Member) : List (List Char) :=
  (ms.filter fun m => m.name == name).map (·.value)

/-- A member adds its value to those of its name. -/
theorem named_cons_self (m : Member) (ms : List Member) :
    named m.name (m :: ms) = m.value :: named m.name ms := by
  simp [named]

/-- A member adds nothing to the values of another name. -/
theorem named_cons_of_ne {name : String} (h : m.name ≠ name) :
    named name (m :: ms) = named name ms := by
  simp [named, h]

/-- What an object makes of a field: a value that is given once, or none at all. -/
def Field.Gets (f : Field) (ms : List Member) (x : Option Scalar) : Prop :=
  named f.name ms = [] ∧ f.optional = true ∧ x = none ∨ ∃ v, named f.name ms = [v] ∧ f.Spells v x

/-- What has just been seen is found. -/
theorem find?_snoc_self (hnew : seen.find? m.name = none) (x : Option Scalar) :
    Seen.find? (seen ++ [(m.name, x)]) m.name = some x := by
  rw [Seen.find?_append, hnew]
  simp [Seen.find?]

/-- Other names are found, or not, as before. -/
theorem find?_snoc_of_ne {name : String} (h : m.name ≠ name) (x : Option Scalar) :
    Seen.find? (seen ++ [(m.name, x)]) name = seen.find? name := by
  rw [Seen.find?_append]
  simp [Seen.find?, h]

/-- What comes to be known of a field: nothing new, or the value that it is given. -/
theorem known_of_gathers (hf : shape.fields.find? (fun g => g.name == f.name) = some f)
    (h : Gathers shape seen ms seen') :
    named f.name ms = [] ∧ seen'.find? f.name = seen.find? f.name ∨
      seen.find? f.name = none ∧
        ∃ v x, named f.name ms = [v] ∧ f.Spells v x ∧ seen'.find? f.name = some x := by
  induction h with
  | nil => exact Or.inl ⟨rfl, rfl⟩
  | @cons seen seen₁ seen₂ m ms htakes _ ih =>
    cases htakes with
    | other hfind =>
      have hne : m.name ≠ f.name := by
        intro he
        rw [he, hf] at hfind
        cases hfind
      rw [named_cons_of_ne hne]
      exact ih
    | @field g x hfind hnew hv =>
      by_cases he : m.name = f.name
      · -- this member is the one that gives the value, and no other may
        rw [he, hf] at hfind
        obtain rfl := Option.some.inj hfind
        rw [← he] at ih ⊢
        have hknown := find?_snoc_self hnew x
        rw [hknown] at ih
        rw [named_cons_self]
        rcases ih with ⟨hnone, hfound⟩ | ⟨hnot, -⟩
        · exact Or.inr ⟨hnew, m.value, x, by rw [hnone], hv, hfound⟩
        · cases hnot
      · rw [find?_snoc_of_ne he] at ih
        rw [named_cons_of_ne he]
        exact ih

/-- The field does not come any more, or it comes once and for the first time. -/
def Field.ComesOnce (f : Field) (seen : Seen) (ms : List Member) : Prop :=
  named f.name ms = [] ∨ seen.find? f.name = none ∧ ∃ v x, named f.name ms = [v] ∧ f.Spells v x

/-- A field that gets its value from all members comes at most once in them. -/
theorem Field.Gets.comesOnce (h : f.Gets ms x) : f.ComesOnce [] ms :=
  h.imp And.left fun ⟨v, hv⟩ => ⟨rfl, v, x, hv⟩

/-- Members that give no field twice, nor one that is known already, are gathered. -/
theorem exists_gathers (h : ∀ f ∈ shape.fields, f.ComesOnce seen ms) :
    ∃ seen', Gathers shape seen ms seen' := by
  induction ms generalizing seen with
  | nil => exact ⟨seen, .nil⟩
  | cons m ms ih =>
    cases hfind : shape.fields.find? (fun g => g.name == m.name) with
    | none =>
      have hrest : ∀ f ∈ shape.fields, f.ComesOnce seen ms := by
        intro f hf
        have hne : m.name ≠ f.name := by
          intro he
          exact List.find?_eq_none.1 hfind f hf (beq_iff_eq.2 he.symm)
        have hf := h f hf
        rwa [Field.ComesOnce, named_cons_of_ne hne] at hf
      obtain ⟨seen', hgathers⟩ := ih hrest
      exact ⟨seen', .cons (.other hfind) hgathers⟩
    -- the member gives the field, which then must not come once more
    | some f =>
      have hname : f.name = m.name := by simpa using List.find?_some hfind
      have hhere := h f (List.mem_of_find?_eq_some hfind)
      rw [Field.ComesOnce, hname, named_cons_self] at hhere
      obtain ⟨hnew, v, x, hnamed, hv⟩ := hhere.resolve_left (List.cons_ne_nil _ _)
      obtain ⟨rfl, hnone⟩ := List.cons.inj hnamed
      have hrest : ∀ g ∈ shape.fields, g.ComesOnce (seen ++ [(m.name, x)]) ms := by
        intro g hg
        by_cases he : m.name = g.name
        · exact Or.inl (he ▸ hnone)
        · have hg := h g hg
          rwa [Field.ComesOnce, named_cons_of_ne he, ← find?_snoc_of_ne he x] at hg
      obtain ⟨seen', hgathers⟩ := ih hrest
      exact ⟨seen', .cons (.field hfind hnew hv) hgathers⟩

/-- The values are put in the order of the fields: what has been seen of each, or none where
nothing has and the field is optional. -/
theorem arrange_eq_ok_iff : arrange rest seen fields = .ok xs ↔
    List.Forall₂ (fun f x => seen.find? f.name = some x ∨
      seen.find? f.name = none ∧ f.optional = true ∧ x = none) fields xs := by
  constructor
  · intro h
    induction fields generalizing xs with
    | nil =>
      cases h
      exact .nil
    | cons f fields ih =>
      -- a failure further on makes the whole fail, so behind a success there is a success
      have hcons : ∀ {x : Option Scalar}, (arrange rest seen fields).map (x :: ·) = .ok xs →
          ∃ xs', xs = x :: xs' ∧ arrange rest seen fields = .ok xs' := by
        intro x hmap
        cases harrange : arrange rest seen fields with
        | error e =>
          rw [harrange] at hmap
          cases hmap
        | ok xs' =>
          rw [harrange] at hmap
          cases hmap
          exact ⟨xs', rfl, rfl⟩
      rw [arrange] at h
      split at h
      · next hfound =>
        obtain ⟨xs', rfl, harrange⟩ := hcons h
        exact .cons (Or.inl hfound) (ih harrange)
      · next hfound =>
        split at h
        · next hoptional =>
          obtain ⟨xs', rfl, harrange⟩ := hcons h
          exact .cons (Or.inr ⟨hfound, hoptional, rfl⟩) (ih harrange)
        · cases h
  · intro h
    induction h with
    | nil => rfl
    | @cons f x fields xs hx _ ih =>
      rw [arrange]
      rcases hx with hfound | ⟨hfound, hoptional, rfl⟩
      · rw [hfound]
        dsimp only
        rw [ih]
        rfl
      · rw [hfound]
        dsimp only
        rw [if_pos hoptional, ih]
        rfl

/-- The members of an object give the values of a record exactly if they give each field its own.
This is where repetitions are refused and strangers are passed over. -/
theorem gathers_arrange_iff (distinct : (shape.fields.map (·.name)).Nodup) (rest : List Char) :
    (∃ seen, Gathers shape [] ms seen ∧ arrange rest seen shape.fields = .ok xs) ↔
      List.Forall₂ (fun f x => f.Gets ms x) shape.fields xs := by
  have hown : ∀ f ∈ shape.fields, shape.fields.find? (fun g => g.name == f.name) = some f :=
    fun f hf => find?_name distinct hf
  constructor
  · rintro ⟨seen, hgathers, harrange⟩
    have hboth := (List.forall₂_and_left _ _).2
      ⟨fun f hf => known_of_gathers (hown f hf) hgathers, arrange_eq_ok_iff.1 harrange⟩
    refine hboth.imp fun f x hx => ?_
    rcases hx with ⟨⟨hnone, hunknown⟩ | ⟨-, v, y, hnamed, hv, hfound⟩, hx⟩
    · have hunknown : seen.find? f.name = none := hunknown
      rcases hx with hfound | ⟨-, hoptional, rfl⟩
      · rw [hunknown] at hfound
        cases hfound
      · exact Or.inl ⟨hnone, hoptional, rfl⟩
    · rcases hx with hfound' | ⟨hunknown, -⟩
      · rw [hfound] at hfound'
        cases hfound'
        exact Or.inr ⟨v, hnamed, hv⟩
      · rw [hfound] at hunknown
        cases hunknown
  · intro h
    -- each field comes at most once, so the members are gathered, and then each has been seen as it
    -- came
    have honce := ((List.forall₂_and_left _ _).1 (h.imp fun f x hx => ⟨hx.comesOnce, hx⟩)).1
    obtain ⟨seen, hgathers⟩ := exists_gathers honce
    refine ⟨seen, hgathers, arrange_eq_ok_iff.2 ?_⟩
    have hboth := (List.forall₂_and_left _ _).2
      ⟨fun f hf => known_of_gathers (hown f hf) hgathers, h⟩
    refine hboth.imp fun f x hx => ?_
    rcases hx with ⟨⟨hnone, hunknown⟩ | ⟨-, v, y, hnamed, hv, hfound⟩, hx⟩
    · rcases hx with ⟨-, hoptional, rfl⟩ | ⟨v, hnamed, -⟩
      · exact Or.inr ⟨hunknown, hoptional, rfl⟩
      · rw [hnone] at hnamed
        cases hnamed
    · rcases hx with ⟨hnone, -⟩ | ⟨v', hnamed', hv'⟩
      · rw [hnone] at hnamed
        cases hnamed
      · rw [hnamed] at hnamed'
        obtain rfl := List.singleton_inj.1 hnamed'
        rw [hv.unique hv'] at hfound
        exact Or.inl hfound

/-! ## Records -/

/-- The text is an object, between blanks, that gives the values. -/
def Shape.IsObject (shape : Shape) (text : List Char) (xs : List (Option Scalar)) : Prop :=
  ∃ g ms t g', AreGaps g ∧ IsMembers true ms t ∧ AreGaps g' ∧ text = g ++ '\x7b' :: (t ++ g') ∧
    List.Forall₂ (fun f x => f.Gets ms x) shape.fields xs

/-- The text is a list, between blanks, of the values in order. -/
def Shape.IsList (shape : Shape) (text : List Char) (xs : List (Option Scalar)) : Prop :=
  ∃ g vs t g', AreGaps g ∧ IsElements true vs t ∧ AreGaps g' ∧ text = g ++ '[' :: (t ++ g') ∧
    AllSpelled shape.fields vs xs

/-- Nothing is left behind blanks, if blanks are all there is. -/
theorem skipGaps_eq_nil_iff : skipGaps s = [] ↔ AreGaps s := by
  unfold skipGaps AreGaps
  exact List.dropWhile_eq_nil_iff

/-- What is read up to closing blanks is an object or a list of the values. -/
theorem Shape.form_of_read (distinct : (shape.fields.map (·.name)).Nodup)
    (h : shape.read s = .ok (xs, g)) (hg : AreGaps g) : shape.IsObject s xs ∨ shape.IsList s xs := by
  unfold read at h
  split at h
  · cases h
  · next r he =>
    obtain ⟨front, hfront, rfl⟩ := exists_gaps he
    split at h
    · cases h
    · next vs mid helements =>
      cases hend : endList mid with
      | error e =>
        rw [hend] at h
        cases h
      | ok rest =>
        rw [hend] at h
        cases h
        obtain ⟨vs, t, ht, hvs, rfl⟩ := elements_of_readElements helements hend
        exact Or.inr ⟨front, vs, t, g, hfront, ht, hg, rfl, hvs⟩
  · next r he =>
    obtain ⟨front, hfront, rfl⟩ := exists_gaps he
    split at h
    · cases h
    · next seen rest hentries =>
      obtain ⟨ms, t, ht, hgathers, rfl⟩ := members_of_readEntries hentries
      cases harrange : arrange rest seen shape.fields with
      | error e =>
        rw [harrange] at h
        cases h
      | ok vs =>
        rw [harrange] at h
        cases h
        have hgets := (gathers_arrange_iff distinct _).1 ⟨seen, hgathers, harrange⟩
        exact Or.inl ⟨front, ms, t, g, hfront, ht, hg, rfl, hgets⟩
  · cases h

/-- An object that gives the values is read. -/
theorem Shape.read_object (distinct : (shape.fields.map (·.name)).Nodup)
    (h : shape.IsObject s xs) : ∃ g, AreGaps g ∧ shape.read s = .ok (xs, g) := by
  obtain ⟨front, ms, t, g, hfront, ht, hg, rfl, hgets⟩ := h
  obtain ⟨seen, hgathers, harrange⟩ := (gathers_arrange_iff distinct g).2 hgets
  have hroom : ms.length < (t ++ g).length + 1 := by
    have := ht.length_lt
    rw [List.length_append]
    omega
  refine ⟨g, hg, ?_⟩
  unfold read
  rw [skipGaps_front hfront (by decide)]
  simp only [readEntries_append ht hgathers hroom g, harrange]
  rfl

/-- A list of the values is read. -/
theorem Shape.read_list (h : shape.IsList s xs) : ∃ g, AreGaps g ∧ shape.read s = .ok (xs, g) := by
  obtain ⟨front, vs, t, g, hfront, ht, hg, rfl, hvs⟩ := h
  obtain ⟨mid, helements, hend⟩ : ∃ mid, readElements shape 0 shape.fields (t ++ g) =
      .ok (xs, mid) ∧ endList mid = .ok g :=
    readElements_append hvs (show IsElements (decide (0 = 0)) vs t from ht) g
  refine ⟨g, hg, ?_⟩
  unfold read
  rw [skipGaps_front hfront (by decide)]
  simp only [helements, hend]
  rfl

/-- A text is read as a record exactly if it is an object or a list of its values, with nothing
but blanks around it. -/
theorem Shape.parse_eq_ok_iff {text : String} (distinct : (shape.fields.map (·.name)).Nodup) :
    shape.parse text = .ok xs ↔ shape.IsObject text.toList xs ∨ shape.IsList text.toList xs := by
  constructor
  · intro h
    unfold parse at h
    dsimp only at h
    split at h
    · cases h
    · next hread =>
      split at h
      · next hgaps =>
        cases h
        exact Shape.form_of_read distinct hread (skipGaps_eq_nil_iff.1 hgaps)
      · cases h
  · intro h
    obtain ⟨g, hg, hread⟩ := h.elim (Shape.read_object distinct) Shape.read_list
    unfold parse
    simp only [hread, skipGaps_eq_nil_iff.2 hg]

end PushToTalk.Json
