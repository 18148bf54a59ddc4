import PushToTalk.Text.Numeral

/-
  The shortest decimal that reads back as a given floating-point number.

  A finite double is `m · 2^q`.  The decimals that round to it form an interval around it, its
  ends included when `m` is even.  The grids of 1, 2, 3, … digits are tried in turn: on each the
  two neighbours of the number are tested, and the first grid with a neighbour inside the
  interval wins; of two neighbours inside, the nearer one, the even one when both are as near.
  Everything is counted in whole numbers, so nothing is rounded on the way.

  The texts of a number (where the point goes, when an exponent is written) are decided by a
  `Layout`.
-/

namespace PushToTalk.Decimal

/-! ## Binary -/

/-- A double taken apart. -/
inductive Parts
  /-- Not a number. -/
  | nan
  /-- An infinity. -/
  | infinite (negative : Bool)
  /-- The number `± m · 2^q`. -/
  | finite (negative : Bool) (m : Nat) (q : Int)
  deriving Repr

/-- Takes the bits of a double apart. -/
def Parts.ofBits (bits : UInt64) : Parts :=
  let n : Nat := bits.toNat
  let negative : Bool := decide (Nat.pow 2 63 ≤ n)
  let e : Nat := n / Nat.pow 2 52 % 2048
  let f : Nat := n % Nat.pow 2 52
  if e = 2047 then (if f = 0 then .infinite negative else .nan)
  else if e = 0 then .finite negative f (-1074)
  else .finite negative (f + Nat.pow 2 52) ((e : Int) - 1075)

/-! ## Digits -/

/-- A decimal `digits · 10^exponent`, and the digits it is written with. -/
structure Digits where
  /-- The digits, the first one not zero. -/
  digits : List Char
  /-- The power of ten that the last digit counts. -/
  exponent : Int
  deriving Repr

/-- The interval of numbers that round to `m · 2^q`, and the number itself, as whole numbers
over one denominator. -/
structure Interval where
  low : Nat
  middle : Nat
  high : Nat
  denominator : Nat
  /-- Whether the ends round to the number too. -/
  closed : Bool

/-- The interval of a positive double. Below a power of two the next double is half as far. -/
def Interval.around (m : Nat) (q : Int) : Interval :=
  let narrow := m = Nat.pow 2 52 && -1074 < q
  let low := if narrow then 4 * m - 1 else 4 * m - 2
  let scale (n : Nat) := if 2 ≤ q then n * Nat.pow 2 (q - 2).toNat else n
  { low := scale low, middle := scale (4 * m), high := scale (4 * m + 2),
    denominator := if 2 ≤ q then 1 else Nat.pow 2 (2 - q).toNat, closed := m % 2 = 0 }

/-- Whether `n · 10^k` lies in the interval. -/
def Interval.holds (i : Interval) (n : Nat) (k : Int) : Bool :=
  let left := if 0 ≤ k then n * Nat.pow 10 k.toNat * i.denominator else n * i.denominator
  let grow (x : Nat) := if 0 ≤ k then x else x * Nat.pow 10 (-k).toNat
  if i.closed then grow i.low ≤ left && left ≤ grow i.high
  else grow i.low < left && left < grow i.high

/-- The multiple of `10^k` just below the number, and twice the distance to it compared with
the distance between multiples. -/
def Interval.floor (i : Interval) (k : Int) : Nat × Ordering :=
  let unit := if 0 ≤ k then Nat.pow 10 k.toNat * i.denominator else i.denominator
  let value := if 0 ≤ k then i.middle else i.middle * Nat.pow 10 (-k).toNat
  (value / unit, compare (2 * (value % unit)) unit)

/-- The best multiple of `10^k` in the interval, if there is one. -/
def Interval.pick (i : Interval) (k : Int) : Option Nat :=
  let (below, side) := i.floor k
  let nearer := match side with
    | .lt => below
    | .gt => below + 1
    | .eq => if below % 2 = 0 then below else below + 1
  if i.holds nearer k then some nearer
  else if i.holds below k then some below
  else if i.holds (below + 1) k then some (below + 1)
  else none

/-- The largest power of ten that is not above the number; `guess` is at least that. -/
def Interval.magnitude (i : Interval) : Nat → Int → Int
  | 0, k => k
  | fuel + 1, k => if (i.floor k).1 = 0 then i.magnitude fuel (k - 1) else k

/-- Tries the grids from coarse to fine, at most `tries` of them. -/
def Interval.shortest (i : Interval) : Nat → Int → Nat × Int
  | 0, k => ((i.floor k).1, k)
  | tries + 1, k =>
    match i.pick k with
    | some n => (n, k)
    | none => i.shortest tries (k - 1)

/-- Drops the zeros at the end of the digits. -/
def Digits.trim (ds : List Char) (k : Int) : Digits :=
  let zeros := (ds.reverse.takeWhile (· == '0')).length
  ⟨ds.take (ds.length - zeros), k + zeros⟩

/-- The shortest digits of the positive double `m · 2^q`. -/
def Digits.shortest (m : Nat) (q : Int) : Digits :=
  let i := Interval.around m q
  let top := i.magnitude 640 310
  let (n, k) := i.shortest 18 (top + 1)
  .trim (Text.Numeral.digits n) k

/-! ## Text -/

/-- Where the point goes and when an exponent is written. -/
structure Layout where
  /-- The least decimal exponent that is still written without one. -/
  least : Int
  /-- The greatest decimal exponent that is still written without one. -/
  greatest : Int
  /-- Whether a whole number gets a point and a zero. -/
  pointZero : Bool
  /-- Whether a positive exponent gets a plus sign. -/
  plus : Bool

/-- Digits without an exponent. -/
def positional (d : Digits) (pointZero : Bool) : List Char :=
  let count : Int := d.digits.length + d.exponent
  if 0 ≤ d.exponent then
    d.digits ++ List.replicate d.exponent.toNat '0' ++ (if pointZero then ['.', '0'] else [])
  else if 0 < count then d.digits.take count.toNat ++ '.' :: d.digits.drop count.toNat
  else '0' :: '.' :: (List.replicate (-count).toNat '0' ++ d.digits)

/-- Digits with the point after the first one and an exponent. -/
def scientific (d : Digits) (plus : Bool) : List Char :=
  let e : Int := d.digits.length + d.exponent - 1
  let mantissa := match d.digits with
    | [] => ['0']
    | [c] => [c]
    | c :: rest => c :: '.' :: rest
  mantissa ++ 'e' :: ((if plus && 0 ≤ e then ['+'] else []) ++ Text.Numeral.signed e)

/-- The text of a double. -/
def Layout.write (l : Layout) (x : Float) : String :=
  match Parts.ofBits x.toBits with
  | .nan => "NaN"
  | .infinite negative => if negative then "-inf" else "inf"
  | .finite negative m q =>
    let sign := if negative then ['-'] else []
    let body :=
      if m = 0 then positional ⟨['0'], 0⟩ l.pointZero
      else
        let d := Digits.shortest m q
        let e : Int := d.digits.length + d.exponent - 1
        if l.least ≤ e && e ≤ l.greatest then positional d l.pointZero
        else scientific d l.plus
    String.ofList (sign ++ body)

/-- Numbers in messages about JSON: an exponent from 10^16 on and below 10^-5. -/
def Layout.message : Layout := ⟨-5, 15, true, true⟩

/-- Numbers that a configuration gives where a text is wanted: never an exponent. -/
def Layout.plain : Layout := ⟨-400, 400, false, false⟩

end PushToTalk.Decimal
