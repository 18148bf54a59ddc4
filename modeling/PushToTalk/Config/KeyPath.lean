import PushToTalk.Config.Value

/-
  Keys that lead into a configuration.

  A key at the top of a file may be a path: names with dots between them, and places of lists in
  square brackets, as in `backend.port` or `servers[0]`.  A key that is no such path is a name as
  it stands.
-/

namespace PushToTalk.Config

/-- One step of a path. -/
inductive KeyStep
  | name (text : String)
  /-- A place of a list. -/
  | place (index : Int)
  deriving DecidableEq, Repr

namespace KeyStep

/-! ## Reading -/

/-- Whether a character may stand in a name of a path. -/
def isPlain (c : Char) : Bool := c.isAlphanum || c == '_' || c == '-' || c == ' '

/-- Reads the place between square brackets; `cs` begins after the first. -/
def readPlace (cs : List Char) : Option (Int × List Char) :=
  let cs := cs.dropWhile fun c => c == ' ' || c == '\t'
  let (negative, cs) := match cs with
    | '-' :: rest => (true, rest)
    | _ => (false, cs)
  let ds := cs.takeWhile Text.Numeral.isDigit
  let n : Int := Text.Numeral.value ds
  match (cs.dropWhile Text.Numeral.isDigit).dropWhile fun c => c == ' ' || c == '\t' with
  | ']' :: rest =>
    if ds.isEmpty || Int.pow 2 63 ≤ n then none else some (if negative then -n else n, rest)
  | _ => none

/-- Reads the steps behind the first name; every step takes at least one character of `fuel`. -/
def readSteps : Nat → List Char → Option (List KeyStep)
  | _, [] => some []
  | 0, _ => none
  | fuel + 1, '.' :: cs =>
    let name := cs.takeWhile isPlain
    if name.isEmpty then none
    else (readSteps fuel (cs.dropWhile isPlain)).map (.name (String.ofList name) :: ·)
  | fuel + 1, '[' :: cs =>
    (readPlace cs).bind fun (index, rest) => (readSteps fuel rest).map (.place index :: ·)
  | _, _ => none

/-- The path that a key spells. -/
def ofKey (key : String) : List KeyStep :=
  let cs := key.toList
  let name := cs.takeWhile isPlain
  match if name.isEmpty then none else readSteps cs.length (cs.dropWhile isPlain) with
  | some steps => .name (String.ofList name) :: steps
  | none => [.name key]

/-! ## Following -/

/-- Puts an item at a place of a list; places before it that are missing hold nothing. -/
def putItem (index : Int) (item : Value) (items : List Value) : List Value :=
  let i := if 0 ≤ index then index.toNat else items.length - index.natAbs
  (items ++ List.replicate (i + 1 - items.length) Value.nothing).set i item

/-- The item at a place of a list. -/
def itemAt (index : Int) (items : List Value) : Value :=
  let i := if 0 ≤ index then index.toNat else items.length - index.natAbs
  (items[i]?).getD .nothing

/-- A list's own file; anything else becomes a list without one. -/
def originOfList : Value → Option String
  | .list origin _ => origin
  | _ => none

/-- Stores a value at the end of a path. What stands in the way of the path is replaced. -/
def store (value : Value) : List KeyStep → Value → Value
  | [], v => v
  | [.name key], v => v.put key (Value.lay (v.lookup? key) value)
  | [.place index], v => .list (originOfList v) (putItem index value v.items)
  | .name key :: steps, v => v.put key (store value steps ((v.lookup? key).getD .nothing))
  | .place index :: steps, v =>
    .list (originOfList v) (putItem index (store value steps (itemAt index v.items)) v.items)

end KeyStep

/-- The configuration that the entries at the top of a file make. -/
def Value.ofTop (top : List (String × Value)) : Value :=
  top.foldl (fun v e => KeyStep.store e.2 (KeyStep.ofKey e.1) v) .made

end PushToTalk.Config
