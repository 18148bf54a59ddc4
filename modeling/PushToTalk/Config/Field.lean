import PushToTalk.Config.KeyPath
import PushToTalk.Decimal.Shortest
import PushToTalk.Text.Lowercase
import PushToTalk.Text.Quoted

/-
  Reading the fields of a configuration.

  A field takes whatever scalar can be read as what it holds: a number for a text, a text for a
  number, anything but a list or a table for a truth value.  Whole numbers have 64 bits and no
  sign; reals are rounded to them, halves away from zero, and cut at both ends.

  A group of fields is a table, or a list with the fields in order.  A field that is missing has
  its standard value.

  Main statements: `field_eq_of_missing` and `field_eq_ok_iff`, what a field of a group is read as
  hangs on the value given for it and on nothing else.
-/

namespace PushToTalk.Config

/-! ## Problems -/

/-- What stood where something else was wanted. -/
inductive Found
  | scalar (value : Scalar)
  /-- A whole number below zero where none may be. -/
  | negative (n : Int)
  | list
  | table
  deriving Repr

/-- What a field holds. -/
inductive Wanted
  | unsigned
  | whole
  | truth
  | text
  deriving DecidableEq, Repr

/-- Why a configuration cannot be read. -/
inductive Problem
  /-- A field has a value of a wrong kind; the path leads to it. -/
  | field (found : Found) (wanted : Wanted) (path : List KeyStep) (origin : Option String)
  /-- A single value stands where a group of fields is wanted. -/
  | group (found : Scalar) (name : String)
  deriving Repr

/-- Reals as problems show them: never an exponent, always a point. -/
def realLayout : Decimal.Layout := ⟨-400, 400, true, false⟩

/-- A scalar as problems show it. -/
def Scalar.shown : Scalar → String
  | .nothing => "unit value"
  | .truth b => "boolean \x60" ++ (if b then "true" else "false") ++ "\x60"
  | .whole n => "integer \x60" ++ Text.Numeral.ofInt n ++ "\x60"
  | .real x => "floating point \x60" ++ realLayout.write x ++ "\x60"
  | .text s => "string " ++ Text.quoted s

def Found.shown : Found → String
  | .scalar s => s.shown
  | .negative n => "integer 64 bit \x60" ++ Text.Numeral.ofInt n ++ "\x60"
  | .list => "sequence"
  | .table => "map"

def Wanted.shown : Wanted → String
  | .unsigned => "an unsigned 64 bit or less integer"
  | .whole => "an integer"
  | .truth => "a boolean"
  | .text => "a string"

/-- A path as problems show it: names with periods between them, places in brackets. -/
def pathText : List KeyStep → String
  | [] => ""
  | .place i :: rest => "[" ++ Text.Numeral.ofInt i ++ "]" ++ pathText rest
  | [.name n] => n
  | .name n :: .place i :: rest => n ++ pathText (.place i :: rest)
  | .name n :: .name m :: rest => n ++ "." ++ pathText (.name m :: rest)

/-- The wording of a problem. -/
def Problem.message : Problem → String
  | .field found wanted path origin =>
    "invalid type: " ++ found.shown ++ ", expected " ++ wanted.shown
      ++ " for key \x60" ++ pathText path ++ "\x60"
      ++ (origin.map fun file => " in " ++ file).getD ""
  | .group found name => "invalid type: " ++ found.shown ++ ", expected struct " ++ name

/-- A problem seen from one step further up. -/
def Problem.below (step : KeyStep) : Problem → Problem
  | .field found wanted path origin => .field found wanted (step :: path) origin
  | p => p

/-! ## Scalars -/

/-- A problem with a value that has no path yet. -/
def Value.misfit (v : Value) (wanted : Wanted) : Problem :=
  match v with
  | .scalar origin s => .field (.scalar s) wanted [] origin
  | .list origin _ => .field .list wanted [] origin
  | .table origin _ => .field .table wanted [] origin

/-- Words for true. -/
def isYes (word : String) : Bool := word == "true" || word == "on" || word == "yes"

/-- Words for false. -/
def isNo (word : String) : Bool := word == "false" || word == "off" || word == "no"

/-- The largest number that fits, and one. -/
def wordLimit : Nat := UInt64.size

/-- The number that a text stands for. -/
def numberOf? (s : String) : Option Nat :=
  if isYes (Text.lower s) then some 1
  else if isNo (Text.lower s) then some 0
  else Text.Numeral.bounded? wordLimit s

/-- Reads a number. -/
def readNumber (v : Value) : Except Problem Nat :=
  match v with
  | .scalar origin (.whole n) =>
    if 0 ≤ n then .ok n.toNat else .error (.field (.negative n) .unsigned [] origin)
  | .scalar _ (.truth b) => .ok (if b then 1 else 0)
  | .scalar _ (.real x) => .ok x.round.toUInt64.toNat
  | .scalar origin (.text s) =>
    match numberOf? s with
    | some n => .ok n
    | none => .error (.field (.scalar (.text s)) .whole [] origin)
  | _ => .error (v.misfit .whole)

/-- Reads the number of a port, of which the lower sixteen bits are kept. -/
def readPort (v : Value) : Except Problem UInt16 := (readNumber v).map UInt16.ofNat

/-- Reads a truth value. -/
def readTruth (v : Value) : Except Problem Bool :=
  match v with
  | .scalar _ (.truth b) => .ok b
  | .scalar _ (.whole n) => .ok (n != 0)
  | .scalar _ (.real x) => .ok (x != 0)
  | .scalar origin (.text s) =>
    let word := Text.lower s
    if isYes word || word == "1" then .ok true
    else if isNo word || word == "0" then .ok false
    else .error (.field (.scalar (.text word)) .truth [] origin)
  | _ => .error (v.misfit .truth)

/-- Reads a text. -/
def readText (v : Value) : Except Problem String :=
  match v with
  | .scalar _ (.text s) => .ok s
  | .scalar _ (.truth b) => .ok (if b then "true" else "false")
  | .scalar _ (.whole n) => .ok (Text.Numeral.ofInt n)
  | .scalar _ (.real x) => .ok (Decimal.Layout.plain.write x)
  | _ => .error (v.misfit .text)

/-! ## Groups -/

/-- Refuses a single value in the place of the group `name`. -/
def Value.checkGroup (v : Value) (name : String) : Except Problem Unit :=
  match v with
  | .scalar _ s => .error (.group s name)
  | _ => .ok ()

/-- The value given for a field of a group, and the step that leads to it. -/
def Value.given? (v : Value) (index : Nat) (key : String) : Option (KeyStep × Value) :=
  match v with
  | .list _ items => items[index]?.map fun w => (.place index, w)
  | v => (v.lookup? key).map fun w => (.name key, w)

/-- Reads a field of a group; in a list it is the one at `index`. -/
def Value.field {α : Type} (v : Value) (index : Nat) (key : String)
    (read : Value → Except Problem α) (standard : α) : Except Problem α :=
  match v.given? index key with
  | none => .ok standard
  | some (step, w) => (read w).mapError (Problem.below step)

/-- A field that is not given has its default. -/
theorem field_eq_of_missing {α : Type} {v : Value} {index : Nat} {key : String}
    (h : v.given? index key = none) (read : Value → Except Problem α) (standard : α) :
    v.field index key read standard = .ok standard := by
  rw [Value.field, h]

/-- A field that is given is read as `a` exactly if its value is. -/
theorem field_eq_ok_iff {α : Type} {v w : Value} {index : Nat} {key : String} {step : KeyStep}
    (h : v.given? index key = some (step, w)) (read : Value → Except Problem α) (standard a : α) :
    v.field index key read standard = .ok a ↔ read w = .ok a := by
  rw [Value.field, h]
  show (read w).mapError (Problem.below step) = .ok a ↔ read w = .ok a
  cases read w with
  | error e =>
    constructor
    · intro hc
      cases hc
    · intro hc
      cases hc
  | ok b => exact Iff.rfl

end PushToTalk.Config
