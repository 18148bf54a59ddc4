import PushToTalk.Proofs.Json.Form
import PushToTalk.Tick

/-
  What is taken for a tick.

  A tick request is answered by the backend with a body, and whatever is taken for a tick goes on to
  stamp a recording.  The answer ought to be an object that gives the two values by name; the reader
  takes a list of the two values for a tick as well.  Nothing else gives one: a value is null or a
  whole number of 64 bits with a sign, spelled without a point, an exponent or leading zeros (and
  zero without its sign), and no name comes twice.

  1. **Ticks as texts** (`IsObject`, `IsList`) — in terms of the grammar of JSON only, with no
     mention of the reader or of shapes.

  2. **Values** — what is said of a value is what its field holds (`says_single_iff`,
     `says_named_iff`).  An object may leave a value out; a list may not.

  3. **Bodies** — the two forms are those in which the shape of a tick is read.  What the grammar
     has to do with the reader was shown for all shapes (`Shape.parse_eq_ok_iff`), so here a tick is
     only compared with its record.

  Main statement: `parse_outcome`, and `list_taken_for_tick` for the list.
-/

namespace PushToTalk.TickData

open Json

variable {name : String} {v : List Char} {ms : List Member} {w : Option Int64}
  {x : Option Scalar} {xs : List (Option Scalar)}

/-! ## Ticks as texts -/

/-- The spellings that are given for a value: the number itself, or null or nothing at all if it is
left open. -/
def Says (spellings : List (List Char)) : Option Int64 → Prop
  | none => spellings = [] ∨ spellings = ["null".toList]
  | some n => spellings = [Text.Numeral.signed n.toInt]

/-- The text is a JSON object that gives each value of the tick at most once, under its name. -/
def IsObject (text : List Char) (t : TickData) : Prop :=
  ∃ g ms members g', AreGaps g ∧ IsMembers true ms members ∧ AreGaps g' ∧
    text = g ++ '\x7b' :: (members ++ g') ∧
    Says (named "tickId" ms) t.tickId ∧ Says (named "elapsed" ms) t.elapsed

/-- The text is a JSON list of the two values of the tick. -/
def IsList (text : List Char) (t : TickData) : Prop :=
  ∃ g v v' elements g', AreGaps g ∧ IsElements true [v, v'] elements ∧ AreGaps g' ∧
    text = g ++ '[' :: (elements ++ g') ∧ Says [v] t.tickId ∧ Says [v'] t.elapsed

/-! ## Values -/

/-- A field holds exactly the numbers of 64 bits with a sign. -/
theorem kind_eq_integer {low high : Int} {label : String}
    (h : (field name).kind = .integer low high label) :
    low = -9223372036854775808 ∧ high = 9223372036854775807 := by
  cases h
  exact ⟨rfl, rfl⟩

/-- What is spelled for a value, in terms of its field. -/
theorem says_single_iff : Says [v] w ↔ ∃ x, (field name).Spells v x ∧ word x = w := by
  constructor
  · intro h
    cases w with
    | none =>
      obtain rfl : v = "null".toList := by simpa [Says] using h
      exact ⟨none, .null rfl, rfl⟩
    | some n =>
      obtain rfl : v = Text.Numeral.signed n.toInt := List.singleton_inj.1 h
      have hlow := Int64.le_toInt n
      have hhigh := Int64.toInt_lt n
      have hbounds : -Int.pow 2 63 ≤ n.toInt ∧ n.toInt ≤ Int.pow 2 63 - 1 := by
        show -9223372036854775808 ≤ n.toInt ∧ n.toInt ≤ 9223372036854775807
        omega
      refine ⟨some (.integer n.toInt), .integer rfl hbounds ⟨by omega, by omega⟩, ?_⟩
      exact congrArg some (Int64.ofInt_toInt n)
  · rintro ⟨x, hx, rfl⟩
    cases hx with
    | null => exact Or.inr rfl
    | text hkind => cases hkind
    | @integer low high n label hkind hbounds =>
      obtain ⟨rfl, rfl⟩ := kind_eq_integer hkind
      have hn : (Int64.ofInt n).toInt = n := Int64.toInt_ofInt_of_le (by omega) (by omega)
      -- the bounds of the field are those of 64 bits, so the number is not changed by being put
      -- into them
      show [Text.Numeral.signed n] = [Text.Numeral.signed (Int64.ofInt n).toInt]
      rw [hn]

/-- What an object says of a value, in terms of its field. -/
theorem says_named_iff : Says (named name ms) w ↔ ∃ x, (field name).Gets ms x ∧ word x = w := by
  constructor
  · intro h
    by_cases hnone : named name ms = []
    · cases w with
      | none => exact ⟨none, Or.inl ⟨hnone, rfl, rfl⟩, rfl⟩
      | some n =>
        rw [hnone] at h
        cases h
    · obtain ⟨v, hv⟩ : ∃ v, named name ms = [v] := by
        cases w with
        | none => exact ⟨_, h.resolve_left hnone⟩
        | some n => exact ⟨_, h⟩
      rw [hv] at h
      obtain ⟨x, hx, hw⟩ := says_single_iff.1 h
      exact ⟨x, Or.inr ⟨v, hv, hx⟩, hw⟩
  · rintro ⟨x, ⟨hnone, -, rfl⟩ | ⟨v, hv, hx⟩, rfl⟩
    · exact Or.inl hnone
    · have hv : named name ms = [v] := hv
      rw [hv]
      exact says_single_iff.2 ⟨x, hx, rfl⟩

/-! ## Bodies -/

/-- The two fields have different names. -/
theorem distinct : (shape.fields.map (·.name)).Nodup := by decide

/-- A tick is what the two fields of its shape hold. -/
theorem isObject_iff (text : List Char) (t : TickData) :
    IsObject text t ↔ ∃ x y, shape.IsObject text [x, y] ∧ t = ⟨word x, word y⟩ := by
  constructor
  · rintro ⟨g, ms, members, g', hg, hms, hg', htext, hid, helapsed⟩
    obtain ⟨x, hx, hid⟩ := says_named_iff.1 hid
    obtain ⟨y, hy, helapsed⟩ := says_named_iff.1 helapsed
    refine ⟨x, y, ⟨g, ms, members, g', hg, hms, hg', htext, .cons hx (.cons hy .nil)⟩, ?_⟩
    rw [hid, helapsed]
  · rintro ⟨x, y, ⟨g, ms, members, g', hg, hms, hg', htext, hgets⟩, rfl⟩
    obtain _ | ⟨hx, _ | ⟨hy, -⟩⟩ := hgets
    exact ⟨g, ms, members, g', hg, hms, hg', htext, says_named_iff.2 ⟨x, hx, rfl⟩,
      says_named_iff.2 ⟨y, hy, rfl⟩⟩

/-- A tick that is given by a list is what the two elements of the list hold. -/
theorem isList_iff (text : List Char) (t : TickData) :
    IsList text t ↔ ∃ x y, shape.IsList text [x, y] ∧ t = ⟨word x, word y⟩ := by
  constructor
  · rintro ⟨g, v, v', elements, g', hg, helements, hg', htext, hid, helapsed⟩
    obtain ⟨x, hx, hid⟩ := says_single_iff.1 hid
    obtain ⟨y, hy, helapsed⟩ := says_single_iff.1 helapsed
    refine ⟨x, y, ⟨g, [v, v'], elements, g', hg, helements, hg', htext,
      .cons hx (.cons hy .nil)⟩, ?_⟩
    rw [hid, helapsed]
  · rintro ⟨x, y, ⟨g, vs, elements, g', hg, helements, hg', htext, hvs⟩, rfl⟩
    obtain _ | ⟨hx, _ | ⟨hy, _ | _⟩⟩ := hvs
    exact ⟨g, _, _, elements, g', hg, helements, hg', htext, says_single_iff.2 ⟨x, hx, rfl⟩,
      says_single_iff.2 ⟨y, hy, rfl⟩⟩

/-- A record of a tick has two values. -/
theorem exists_pair {text : List Char} (h : shape.IsObject text xs ∨ shape.IsList text xs) :
    ∃ x y, xs = [x, y] := by
  rcases h with ⟨_, _, _, _, _, _, _, _, hgets⟩ | ⟨_, _, _, _, _, _, _, _, hvs⟩
  · obtain _ | ⟨-, _ | ⟨-, _ | _⟩⟩ := hgets
    exact ⟨_, _, rfl⟩
  · obtain _ | ⟨-, _ | ⟨-, _ | _⟩⟩ := hvs
    exact ⟨_, _, rfl⟩

/-- A body that is read as a record of the shape gives the tick of its two values. -/
theorem parse_of_shape {body : String} (h : shape.parse body = .ok xs) :
    ∃ x y, xs = [x, y] ∧ parse body = .ok ⟨word x, word y⟩ := by
  obtain ⟨x, y, rfl⟩ := exists_pair ((Shape.parse_eq_ok_iff distinct).1 h)
  refine ⟨x, y, rfl, ?_⟩
  unfold parse
  rw [h]

/-- A body that is not read as a record of the shape is misread, and the error carries it along. -/
theorem parse_of_shape_error {body : String} {why : Json.Error} (h : shape.parse body = .error why) :
    parse body = .error (.tick body why) := by
  unfold parse
  rw [h]

/-- A tick is given by a body that is an object or a list of it. -/
theorem parse_eq_ok_iff (body : String) (t : TickData) :
    parse body = .ok t ↔ IsObject body.toList t ∨ IsList body.toList t := by
  rw [isObject_iff, isList_iff]
  constructor
  · intro h
    cases hshape : shape.parse body with
    | error why =>
      rw [parse_of_shape_error hshape] at h
      cases h
    | ok xs =>
      obtain ⟨x, y, rfl, hparse⟩ := parse_of_shape hshape
      rw [hparse] at h
      cases h
      exact ((Shape.parse_eq_ok_iff distinct).1 hshape).imp (fun h => ⟨x, y, h, rfl⟩)
        fun h => ⟨x, y, h, rfl⟩
  · intro h
    obtain ⟨x, y, hform, rfl⟩ : ∃ x y,
        (shape.IsObject body.toList [x, y] ∨ shape.IsList body.toList [x, y]) ∧
          t = ⟨word x, word y⟩ := by
      rcases h with ⟨x, y, h, ht⟩ | ⟨x, y, h, ht⟩
      · exact ⟨x, y, Or.inl h, ht⟩
      · exact ⟨x, y, Or.inr h, ht⟩
    obtain ⟨x', y', hxs, hparse⟩ := parse_of_shape ((Shape.parse_eq_ok_iff distinct).2 hform)
    cases hxs
    exact hparse

/-- A body gives the tick that it is an object or a list of; any other is reported as misread. -/
theorem parse_outcome (body : String) :
    (∀ t, parse body = .ok t ↔ IsObject body.toList t ∨ IsList body.toList t) ∧
      ((∃ why, parse body = .error (.tick body why)) ↔
        ∀ t, ¬ (IsObject body.toList t ∨ IsList body.toList t)) := by
  refine ⟨parse_eq_ok_iff body, ?_, ?_⟩
  · rintro ⟨why, herror⟩ t ht
    rw [(parse_eq_ok_iff body t).2 ht] at herror
    cases herror
  · intro hnone
    cases hshape : shape.parse body with
    | error why => exact ⟨why, parse_of_shape_error hshape⟩
    | ok xs =>
      obtain ⟨x, y, -, hparse⟩ := parse_of_shape hshape
      exact absurd ((parse_eq_ok_iff body _).1 hparse) (hnone _)

/-- A list of two numbers is taken for a tick, although it is no object. -/
theorem list_taken_for_tick :
    parse "[7,42]" = .ok ⟨some 7, some 42⟩ ∧ ∀ t, ¬ IsObject "[7,42]".toList t := by
  refine ⟨rfl, ?_⟩
  rintro t ⟨g, ms, members, g', hg, -, -, htext, -⟩
  have htext : '[' :: "7,42]".toList = g ++ '\x7b' :: (members ++ g') := htext
  -- an object has a brace behind the blanks in front of it, and here a bracket stands there
  cases g with
  | nil => exact absurd (List.cons.inj htext).1 (by decide)
  | cons c g =>
    obtain rfl : '[' = c := (List.cons.inj htext).1
    exact absurd (hg '[' List.mem_cons_self) (by decide)

end PushToTalk.TickData
