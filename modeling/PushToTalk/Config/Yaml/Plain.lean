import PushToTalk.Config.Value
import PushToTalk.Decimal.Nearest
import PushToTalk.Text.Ranges

/-
  What a plain text of YAML stands for.

  A plain text is a whole number, a truth value, nothing, a real number, or else itself.
-/

namespace PushToTalk.Config.Yaml

namespace Plain

/-! ## Whole numbers -/

/-- The number that digits of a base stand for. -/
def value? (base : Nat) (ds : List Char) : Option Nat :=
  if ds.isEmpty then none
  else
    ds.foldlM
      (fun n c => (Text.hexDigit? c).bind fun d => if d < base then some (base * n + d) else none) 0

/-- A whole number of 64 bits with an optional sign. -/
def whole? (base : Nat) (cs : List Char) : Option Int :=
  let n? : Option Int := match cs with
    | '-' :: ds => (value? base ds).map fun n => -(n : Int)
    | '+' :: ds => (value? base ds).map fun n => (n : Int)
    | ds => (value? base ds).map fun n => (n : Int)
  n?.filter fun n => -Int.pow 2 63 ≤ n && n < Int.pow 2 63

/-! ## Real numbers -/

/-- The exponent behind its letter, and nothing behind that. -/
def exponent? (cs : List Char) : Option Int :=
  let number (ds : List Char) : Option Int :=
    if ds.isEmpty || !ds.all Text.Numeral.isDigit then none else some (Text.Numeral.value ds)
  match cs with
  | '-' :: ds => (number ds).map fun n => -n
  | '+' :: ds => number ds
  | ds => number ds

/-- A number with a point or an exponent, behind its sign. -/
def decimal? (negative : Bool) (cs : List Char) : Option Float :=
  let whole := cs.takeWhile Text.Numeral.isDigit
  let rest := cs.dropWhile Text.Numeral.isDigit
  let (fraction, rest) := match rest with
    | '.' :: rest => (rest.takeWhile Text.Numeral.isDigit, rest.dropWhile Text.Numeral.isDigit)
    | _ => ([], rest)
  if whole.isEmpty && fraction.isEmpty then none
  else
    (match rest with
      | [] => some 0
      | c :: rest => if c == 'e' || c == 'E' then exponent? rest else none).map fun e =>
      (Decimal.Written.mk negative whole fraction e).nearest

/-- A real number, an infinity, or no number, in words or digits. -/
def real? (cs : List Char) : Option Float :=
  let (negative, cs) := match cs with
    | '-' :: rest => (true, rest)
    | '+' :: rest => (false, rest)
    | _ => (false, cs)
  match String.ofList (cs.map Char.toLower) with
  | "inf" | "infinity" => some (if negative then -1 / 0 else 1 / 0)
  | "nan" => some (0 / 0)
  | _ => decimal? negative cs

/-- Words that stand for a real number but cannot be read as one. -/
def isUnreadable (s : String) : Bool :=
  [".inf", ".Inf", ".INF", "+.inf", "+.Inf", "+.INF", "-.inf", "-.Inf", "-.INF", ".nan",
    ".NAN"].contains s

/-! ## Scalars -/

/-- A whole number as it may be spelled: in tens, or in other bases with a letter in front. -/
def spelledWhole? (cs : List Char) : Option Int :=
  match cs with
  | '0' :: 'x' :: ds => whole? 16 ds
  | '0' :: 'o' :: ds => whole? 8 ds
  | '+' :: ds => whole? 10 ds
  | _ => whole? 10 cs

/-- What a plain text stands for, if it can be read. -/
def scalar? (cs : List Char) : Option Scalar :=
  match String.ofList cs, spelledWhole? cs with
  | _, some n => some (.whole n)
  | "~", _ | "null", _ => some .nothing
  | "true", _ => some (.truth true)
  | "false", _ => some (.truth false)
  | s, none =>
    if isUnreadable s then none
    else some (((real? cs).map Scalar.real).getD (.text s))

/-- What a plain text stands for under a tag. -/
def tagged? (tag cs : List Char) : Option Scalar :=
  let text := String.ofList cs
  match String.ofList tag with
  | "!!bool" =>
    some (if text == "true" then .truth true else if text == "false" then .truth false
      else .nothing)
  | "!!int" => some (((whole? 10 cs).map Scalar.whole).getD .nothing)
  | "!!float" =>
    if isUnreadable text then none else some (((real? cs).map Scalar.real).getD .nothing)
  | "!!null" => some .nothing
  | _ => some (.text text)

end Plain

end PushToTalk.Config.Yaml
