import PushToTalk.Proofs.Json.RoundTrip
import PushToTalk.Proofs.Numeral
import PushToTalk.Proofs.Tick
import PushToTalk.Proofs.Url.Form
import PushToTalk.Upload.Worker

/-
  A tick is read back from what is written of it.

  A tick comes from the backend, is kept with the recording that it belongs to, and goes back when
  the recording is put into the chat.  If a digit or a sign were lost on the way, the recording
  would be filed under another tick.  A tick is written twice: as JSON, and as two pairs of a query
  when a file is put into the chat.  In both the numbers are decimal numerals, with a minus sign in
  front of the negative ones, up to both ends of 64 bits.

  1. **JSON** — an object that gives both values, a missing one as null, is read back
     (`parse_json`). This is the round trip of records for the shape of a tick.

  2. **Queries** — the pairs of a finalize request give both values, if both are known
     (`queried?_finalizeRequest`); with one of them missing the query has none, and is read back as
     well.

  Main statement: `read_back`.
-/

namespace PushToTalk

namespace TickData

/-! ## JSON -/

/-- The values of a tick as the fields of its record. -/
def scalars (t : TickData) : List (Option Json.Scalar) :=
  [t.tickId.map fun n => .integer n.toInt, t.elapsed.map fun n => .integer n.toInt]

/-- The integers that a word of 64 bits stands for. -/
theorem toInt_bounds (n : Int64) :
    -9223372036854775808 ≤ n.toInt ∧ n.toInt ≤ 9223372036854775807 :=
  ⟨Int64.le_toInt n, Int64.toInt_le n⟩

/-- A word is the same after being taken for an integer and back. -/
theorem word_map_toInt (w : Option Int64) :
    word (w.map fun n => .integer n.toInt) = w := by
  cases w with
  | none => rfl
  | some n => exact congrArg some (Int64.ofInt_toInt n)

/-- A word fits its field, and so does a missing one. -/
theorem field_fits (name : String) (w : Option Int64) :
    (field name).Fits (w.map fun n => .integer n.toInt) := by
  cases w with
  | none => rfl
  | some n => exact ⟨_, _, _, rfl, toInt_bounds n⟩

/-- The JSON of a tick is its record, written by the shape. -/
theorem json_eq_write (t : TickData) : t.json = shape.write t.scalars := by
  obtain ⟨_ | i, _ | e⟩ := t <;> rfl

/-- A tick is read back from its JSON. -/
theorem parse_json (t : TickData) : parse t.json = .ok t := by
  have hfits : List.Forall₂ Json.Field.Fits shape.fields t.scalars :=
    .cons (field_fits "tickId" t.tickId) (.cons (field_fits "elapsed" t.elapsed) .nil)
  have hword : ∀ n, some (Json.Scalar.integer n) ∈ t.scalars → Json.IsWord n := by
    intro n hn
    obtain ⟨m, rfl⟩ : ∃ m : Int64, m.toInt = n := by
      rcases List.mem_pair.1 hn with hn | hn
      · obtain ⟨m, -, hm⟩ := Option.map_eq_some_iff.1 hn.symm
        exact ⟨m, Json.Scalar.integer.inj hm⟩
      · obtain ⟨m, -, hm⟩ := Option.map_eq_some_iff.1 hn.symm
        exact ⟨m, Json.Scalar.integer.inj hm⟩
    obtain ⟨hlow, hhigh⟩ := toInt_bounds m
    exact ⟨hlow, by omega⟩
  -- the record is read back, and what is left is that it is the record of this tick
  obtain ⟨x, y, hxy, hparse⟩ := parse_of_shape (Json.Shape.parse_write distinct hfits hword)
  obtain ⟨rfl, rfl⟩ : t.tickId.map (fun n => Json.Scalar.integer n.toInt) = x ∧
      t.elapsed.map (fun n => Json.Scalar.integer n.toInt) = y := by
    simpa [scalars] using hxy
  rw [json_eq_write, hparse, word_map_toInt, word_map_toInt]

/-! ## Queries -/

/-- The number that a query gives under a name. -/
def queried? (name : String) (pairs : List (String × String)) : Option Int :=
  (pairs.lookup name).bind String.toInt?

/-- The query has both values, or none. -/
theorem query_finalizeRequest (name topic fileId : String) (t : TickData) :
    (Upload.finalizeRequest name topic fileId t).query =
      (t.complete.map fun v =>
        [("tickId", Upload.tickText v.1), ("elapsed", Upload.tickText v.2)]).getD [] := by
  unfold Upload.finalizeRequest
  cases t.complete <;> rfl

/-- A query without pairs is read back as well. -/
theorem read?_write_query (name topic fileId : String) (t : TickData) :
    Url.Form.read? (Url.Form.write (Upload.finalizeRequest name topic fileId t).query) =
      some (Upload.finalizeRequest name topic fileId t).query := by
  rw [query_finalizeRequest]
  cases t.complete with
  | none => rfl
  | some v => exact Url.Form.read?_write (by simp)

/-- The query of a finalize request gives both values if both are known, and none otherwise. -/
theorem queried?_finalizeRequest (name topic fileId : String) (t : TickData) :
    queried? "tickId" (Upload.finalizeRequest name topic fileId t).query =
        t.complete.map (·.1.toInt) ∧
      queried? "elapsed" (Upload.finalizeRequest name topic fileId t).query =
        t.complete.map (·.2.toInt) := by
  rw [query_finalizeRequest]
  cases t.complete with
  | none => exact ⟨rfl, rfl⟩
  | some v => exact ⟨Text.Numeral.toInt?_ofInt v.1.toInt, Text.Numeral.toInt?_ofInt v.2.toInt⟩

/-- A tick is read back.

1. The JSON of a tick gives that tick.
2. So a tick that was read from any body is read again from its own JSON, and both its values are
   known then exactly if they were before, and are the same.
3. The query that files a recording is read back from its spelling, and the library's reader finds
   in it the two values if both are known, and none otherwise. -/
theorem read_back :
    (∀ t : TickData, parse t.json = .ok t) ∧
    (∀ (body : String) (t : TickData), parse body = .ok t →
      ∃ again, parse t.json = .ok again ∧ again = t ∧
        ∀ v, again.complete = some v ↔ t.complete = some v) ∧
    ∀ (name topic fileId : String) (t : TickData),
      let query := (Upload.finalizeRequest name topic fileId t).query
      Url.Form.read? (Url.Form.write query) = some query ∧
        queried? "tickId" query = t.complete.map (·.1.toInt) ∧
        queried? "elapsed" query = t.complete.map (·.2.toInt) :=
  ⟨parse_json, fun _ t _ => ⟨t, parse_json t, rfl, fun _ => Iff.rfl⟩,
    fun name topic fileId t =>
      ⟨read?_write_query name topic fileId t, queried?_finalizeRequest name topic fileId t⟩⟩

/-- The two ends of 64 bits, given in the other order. -/
theorem read_back_sample :
    let body := "\x7b\"elapsed\": -9223372036854775808, \"tickId\": 9223372036854775807\x7d"
    let t : TickData := ⟨some Int64.maxValue, some Int64.minValue⟩
    parse body = .ok t ∧
      ∃ again, parse t.json = .ok again ∧ again = t ∧
        ∀ v, again.complete = some v ↔ t.complete = some v := by
  intro body t
  have hparse : parse body = .ok t := by
    have hread : (parse body).toOption = some t := by decide +kernel
    cases h : parse body with
    | error why =>
      rw [h] at hread
      cases hread
    | ok t' =>
      rw [h] at hread
      exact congrArg Except.ok (Option.some.inj hread)
  exact ⟨hparse, read_back.2.1 body t hparse⟩

end TickData

end PushToTalk
