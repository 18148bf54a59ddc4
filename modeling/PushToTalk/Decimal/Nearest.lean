import PushToTalk.Text.Numeral

/-
  The floating-point number nearest to a decimal.

  A decimal is written as digits, perhaps a point with more digits, perhaps a power of ten.  The
  nearest double is found at once, without rounding on the way.  Exponents far outside the range
  of doubles are settled before anything is computed with them, however many digits they have.
-/

namespace PushToTalk.Decimal

/-- A decimal as it is written: `± whole.fraction · 10^exponent`, all digits. -/
structure Written where
  negative : Bool
  whole : List Char
  fraction : List Char
  exponent : Int
  deriving Repr

/-- No double but zero is below ten to the power of minus this, and none at all above ten to the
power of this. -/
def reach : Int := 400

/-- The nearest double; an infinity if there is none that large. -/
def Written.nearest (w : Written) : Float :=
  let ds := (w.whole ++ w.fraction).dropWhile (· == '0')
  let e := w.exponent - w.fraction.length
  let x : Float :=
    if ds.isEmpty || ds.length + e < -reach then 0
    else if reach < ds.length + e then 1 / 0
    else Float.ofScientific (Text.Numeral.value ds) (e < 0) e.natAbs
  if w.negative then -x else x

end PushToTalk.Decimal
